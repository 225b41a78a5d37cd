import MessagingRelayer.Auth.Middleware

/-!
# The window of timestamps

`validate_timestamp` computes `(now - timestamp).abs()` in 64-bit integers, of a timestamp the
client chooses. In a release build the difference and its absolute value wrap, which is
`validateTimestamp`; in a debug build they panic, which is `validateTimestampDebug`.

`acceptsTimestamp_iff` says which timestamps a release build accepts, and `windowExact_iff` when the
check is exact and nothing overflows. `Authenticated.timestamp_window` is what that leaves of the
window for a request the middleware accepts.
-/

set_option autoImplicit false
set_option relaxedAutoImplicit false

namespace MessagingRelayer

open Foundation

/-! ### 64-bit arithmetic -/

/-- The integer is in the range of `i64`. -/
def Fits64 (value : Int) : Prop :=
  -2 ^ 63 ≤ value ∧ value < 2 ^ 63

instance (value : Int) : Decidable (Fits64 value) :=
  inferInstanceAs (Decidable (_ ∧ _))

/-- The difference of two `i64`s, which panics where it overflows. -/
def checkedSub (first second : Int) : Option Int :=
  if Fits64 (first - second) then some (first - second) else none

/-- The absolute value of an `i64`, which panics where it overflows. -/
def checkedAbs (value : Int) : Option Int :=
  if Fits64 |value| then some |value| else none

/-- `validateTimestamp` in a debug build; it may panic. -/
def validateTimestampDebug (now timestamp ttlSeconds : Int) : Option (Except AuthError Unit) := do
  let difference ← checkedSub now timestamp
  let diff ← checkedAbs difference
  if diff > ttlSeconds then
    some (.error (.requestExpired timestamp now ttlSeconds))
  else
    some (.ok ())

section Arithmetic

variable {first second value : Int}

theorem wrappingSub_of_fits (hfits : Fits64 (first - second)) :
    wrappingSub first second = first - second :=
  Int.bmod_eq_of_le (by unfold Fits64 at hfits; omega) (by unfold Fits64 at hfits; omega)

/-- A difference that is too large wraps to a negative one. -/
theorem wrappingSub_of_large (hlarge : 2 ^ 63 ≤ first - second)
    (hbound : first - second < 2 ^ 64) : wrappingSub first second = first - second - 2 ^ 64 := by
  have hwrap := Int.sub_bmod_right (first - second) (2 ^ 64)
  rw [wrappingSub, ← hwrap]
  exact Int.bmod_eq_of_le (by omega) (by omega)

theorem wrappingAbs_of_fits (hfits : Fits64 |value|) : wrappingAbs value = |value| := by
  unfold wrappingAbs
  split_ifs with hnegative
  · rw [abs_of_neg hnegative] at hfits ⊢
    exact Int.bmod_eq_of_le (by unfold Fits64 at hfits; omega) (by unfold Fits64 at hfits; omega)
  · rw [abs_of_nonneg (not_lt.mp hnegative)]

/-- The least `i64` is its own absolute value. -/
theorem wrappingAbs_least : wrappingAbs (-2 ^ 63) = -2 ^ 63 := by
  decide

end Arithmetic

/-! ### The check -/

section Window

variable {now timestamp ttlSeconds : Int}

theorem validateTimestamp_eq_ok_iff :
    validateTimestamp now timestamp ttlSeconds = .ok () ↔
      wrappingAbs (wrappingSub now timestamp) ≤ ttlSeconds := by
  unfold validateTimestamp
  by_cases hexpired : wrappingAbs (wrappingSub now timestamp) > ttlSeconds
  · simp [hexpired]
  · simp [hexpired, not_lt.mp hexpired]

/-- A debug build does not panic exactly when the distance is in the range of `i64`. -/
theorem isSome_validateTimestampDebug_iff :
    (validateTimestampDebug now timestamp ttlSeconds).isSome = true ↔
      Fits64 (now - timestamp) ∧ Fits64 |now - timestamp| := by
  unfold validateTimestampDebug checkedSub checkedAbs
  by_cases hsub : Fits64 (now - timestamp)
  · by_cases habs : Fits64 |now - timestamp|
    · by_cases hexpired : |now - timestamp| > ttlSeconds
      · simp [hsub, habs, hexpired]
      · simp [hsub, habs, hexpired]
    · simp [hsub, habs]
  · simp [hsub]

/-- Where a debug build does not panic, a release build answers the same. -/
theorem validateTimestamp_of_debug {result : Except AuthError Unit}
    (hdebug : validateTimestampDebug now timestamp ttlSeconds = some result) :
    validateTimestamp now timestamp ttlSeconds = result := by
  obtain ⟨hsub, habs⟩ := isSome_validateTimestampDebug_iff.mp (Option.isSome_of_eq_some hdebug)
  unfold validateTimestampDebug checkedSub checkedAbs at hdebug
  unfold validateTimestamp
  rw [wrappingSub_of_fits hsub, wrappingAbs_of_fits habs]
  rw [if_pos hsub] at hdebug
  by_cases hexpired : |now - timestamp| > ttlSeconds
  · simpa [habs, hexpired] using hdebug
  · simpa [habs, hexpired] using hdebug

/-- The check accepts exactly the timestamps within `ttlSeconds` of the clock, and neither the
difference nor its absolute value overflows. -/
def WindowExact (now timestamp ttlSeconds : Int) : Prop :=
  (validateTimestamp now timestamp ttlSeconds = .ok () ↔ |now - timestamp| ≤ ttlSeconds) ∧
    (validateTimestampDebug now timestamp ttlSeconds).isSome = true

/-- Assumes: `i64`s, with a clock and a window that are not negative. A release build accepts the
timestamps in the window, the one `2 ^ 63` seconds before the clock, and those from
`2 ^ 64 - ttlSeconds` seconds before it on. -/
theorem acceptsTimestamp_iff (hnow : 0 ≤ now) (hclock : Fits64 now) (htimestamp : Fits64 timestamp)
    (httl : 0 ≤ ttlSeconds) (hwindow : Fits64 ttlSeconds) :
    validateTimestamp now timestamp ttlSeconds = .ok () ↔
      |now - timestamp| ≤ ttlSeconds ∨ now - timestamp = 2 ^ 63 ∨
        2 ^ 64 - ttlSeconds ≤ now - timestamp := by
  unfold Fits64 at hclock htimestamp hwindow
  rw [validateTimestamp_eq_ok_iff]
  by_cases hsmall : now - timestamp < 2 ^ 63
  · have hsub : Fits64 (now - timestamp) := ⟨by omega, hsmall⟩
    have habs : Fits64 |now - timestamp| :=
      ⟨by linarith [abs_nonneg (now - timestamp)], abs_lt.mpr ⟨by omega, hsmall⟩⟩
    have hnear : ¬ (now - timestamp = 2 ^ 63 ∨ 2 ^ 64 - ttlSeconds ≤ now - timestamp) := by omega
    rw [wrappingSub_of_fits hsub, wrappingAbs_of_fits habs, or_iff_left hnear]
  · have hlarge : 2 ^ 63 ≤ now - timestamp := not_lt.mp hsmall
    have hfar : ¬ |now - timestamp| ≤ ttlSeconds := by
      rw [abs_of_nonneg (by omega)]
      omega
    rw [wrappingSub_of_large hlarge (by omega), or_iff_right hfar]
    by_cases hleast : now - timestamp = 2 ^ 63
    · have hwrapped : now - timestamp - 2 ^ 64 = -2 ^ 63 := by omega
      rw [hwrapped, wrappingAbs_least]
      exact iff_of_true (by omega) (Or.inl hleast)
    · have habs : |now - timestamp - 2 ^ 64| = 2 ^ 64 - (now - timestamp) := by
        rw [abs_of_neg (by omega)]
        omega
      have hfits : Fits64 |now - timestamp - 2 ^ 64| := by
        rw [habs]
        exact ⟨by omega, by omega⟩
      rw [wrappingAbs_of_fits hfits, habs, or_iff_right hleast]
      omega

/-- Assumes: `i64`s, with a clock and a window that are not negative. The check is exact and without
overflow exactly for the timestamps less than `2 ^ 63` seconds before the clock; and a release build
is exact unless the timestamp is `2 ^ 63` seconds before the clock, or `2 ^ 64 - ttlSeconds` seconds
or more. -/
theorem windowExact_iff (hnow : 0 ≤ now) (hclock : Fits64 now) (htimestamp : Fits64 timestamp)
    (httl : 0 ≤ ttlSeconds) (hwindow : Fits64 ttlSeconds) :
    (WindowExact now timestamp ttlSeconds ↔ now - timestamp < 2 ^ 63) ∧
      ((validateTimestamp now timestamp ttlSeconds = .ok () ↔ |now - timestamp| ≤ ttlSeconds) ↔
        ¬ (now - timestamp = 2 ^ 63 ∨ 2 ^ 64 - ttlSeconds ≤ now - timestamp)) := by
  have haccepts := acceptsTimestamp_iff hnow hclock htimestamp httl hwindow
  unfold Fits64 at hclock htimestamp hwindow
  constructor
  · unfold WindowExact
    rw [haccepts, isSome_validateTimestampDebug_iff]
    constructor
    · rintro ⟨-, hsub, -⟩
      exact hsub.2
    · intro hsmall
      have hnear : ¬ (now - timestamp = 2 ^ 63 ∨ 2 ^ 64 - ttlSeconds ≤ now - timestamp) := by omega
      refine ⟨or_iff_left hnear, ⟨by omega, hsmall⟩, ?_⟩
      exact ⟨by linarith [abs_nonneg (now - timestamp)], abs_lt.mpr ⟨by omega, hsmall⟩⟩
  · rw [haccepts]
    constructor
    · intro hexact hoverflow
      have hnear := hexact.mp (Or.inr hoverflow)
      rw [abs_le] at hnear
      omega
    · intro hnone
      exact or_iff_left hnone

theorem windowExact_iff_sampleClock :
    (WindowExact 1700000000 1699999990 300 ↔ (1700000000 : Int) - 1699999990 < 2 ^ 63) ∧
      ((validateTimestamp 1700000000 1699999990 300 = .ok () ↔
          |(1700000000 : Int) - 1699999990| ≤ 300) ↔
        ¬ ((1700000000 : Int) - 1699999990 = 2 ^ 63 ∨
          2 ^ 64 - 300 ≤ (1700000000 : Int) - 1699999990)) :=
  windowExact_iff (by decide) (by decide) (by decide) (by decide) (by decide)

/-- A timestamp `2 ^ 63` seconds before the clock is accepted. -/
theorem not_windowExact_farPast :
    ¬ ∀ now timestamp ttlSeconds : Int, 0 ≤ now → Fits64 now → Fits64 timestamp →
      0 ≤ ttlSeconds → Fits64 ttlSeconds → WindowExact now timestamp ttlSeconds := by
  intro hexact
  have hwindow := hexact 1700000000 (1700000000 - 2 ^ 63) 300 (by decide) (by decide) (by decide)
    (by decide) (by decide)
  have haccepted : validateTimestamp 1700000000 (1700000000 - 2 ^ 63) 300 = .ok () := by decide
  exact absurd (hwindow.1.mp haccepted) (by decide)

end Window

/-! ### The timestamps of requests -/

section Requests

variable {libs : Externals}

theorem fits64_of_parseI64 {text : String} {value : Int} (hparse : parseI64 text = some value) :
    Fits64 value := by
  have hrange (parsed : Option Int)
      (hbound : (do
        let number ← parsed
        if -2 ^ 63 ≤ number ∧ number < 2 ^ 63 then some number else none) = some value) :
      Fits64 value := by
    obtain ⟨number, -, hnumber⟩ := Option.bind_eq_some_iff.mp hbound
    split_ifs at hnumber with hfits
    obtain rfl := Option.some.inj hnumber
    exact hfits
  unfold parseI64 at hparse
  split at hparse
  · exact hrange _ hparse
  · exact hrange _ hparse
  · exact hrange _ hparse

theorem fits64_of_fromJson {json : Json} {fields : BodyAuthFields}
    (hread : BodyAuthFields.fromJson json = .ok fields) : Fits64 fields.timestamp := by
  obtain ⟨found, -, hrest⟩ := bind_eq_ok_iff.mp hread
  obtain ⟨groupId, -, hrest⟩ := bind_eq_ok_iff.mp hrest
  obtain ⟨senderAddress, -, hrest⟩ := bind_eq_ok_iff.mp hrest
  obtain ⟨timestamp, htimestamp, hrest⟩ := bind_eq_ok_iff.mp hrest
  obtain rfl := Except.ok.inj hrest
  obtain ⟨value, -, hvalue⟩ := Json.required_eq_ok htimestamp
  exact Json.asI64_eq_ok hvalue

/-- The timestamp of a request is an `i64`, whether it is read from the body or from a header. -/
theorem fits64_of_authFields {headers : List (String × List UInt8)} {body message : List UInt8}
    {fields : BodyAuthFields} (hfields : authFields libs headers body = .ok (fields, message)) :
    Fits64 fields.timestamp := by
  by_cases hbody : body = []
  · unfold authFields at hfields
    rw [if_neg (not_not_intro hbody)] at hfields
    obtain ⟨senderAddress, -, hrest⟩ := bind_eq_ok_iff.mp hfields
    obtain ⟨timestampStr, -, hrest⟩ := bind_eq_ok_iff.mp hrest
    obtain ⟨groupId, -, hrest⟩ := bind_eq_ok_iff.mp hrest
    obtain ⟨timestamp, htimestamp, hrest⟩ := bind_eq_ok_iff.mp hrest
    obtain ⟨rfl, -⟩ := Prod.mk.inj (Except.ok.inj hrest)
    unfold parseTimestamp at htimestamp
    cases hparse : parseI64 timestampStr with
    | none => simp [hparse] at htimestamp
    | some parsed =>
      obtain rfl : parsed = timestamp := by simpa [hparse] using htimestamp
      exact fits64_of_parseI64 hparse
  · obtain ⟨-, json, -, hread⟩ := authFields_of_body hbody hfields
    exact fits64_of_fromJson hread

/-- Assumes: a clock and a window of the range of `i64` that are not negative. A request the
middleware accepts carries a timestamp in the window, or one that overflowed the difference. -/
theorem Authenticated.timestamp_window {ttlSeconds now : Int} {store : InMemoryMembershipStore}
    {request : Request} {permission : MessagingPermission} {signed : Signed} {auth : AuthContext}
    (hauth : Authenticated libs ttlSeconds store now request permission signed auth)
    (hnow : 0 ≤ now) (hclock : Fits64 now) (httl : 0 ≤ ttlSeconds) (hwindow : Fits64 ttlSeconds) :
    |now - signed.timestamp| ≤ ttlSeconds ∨ 2 ^ 63 ≤ now - signed.timestamp := by
  obtain ⟨signatureHex, publicKeyHex, body, -, -, -, -, -, hfields⟩ :=
    extractSigned_eq_ok hauth.extract_eq
  have htimestamp : Fits64 signed.timestamp := fits64_of_authFields hfields
  rcases (acceptsTimestamp_iff hnow hclock htimestamp httl hwindow).mp hauth.timestamp_ok with
    hnear | hleast | hfar
  · exact Or.inl hnear
  · exact Or.inr (le_of_eq hleast.symm)
  · unfold Fits64 at hwindow
    exact Or.inr (by omega)

end Requests

end MessagingRelayer
