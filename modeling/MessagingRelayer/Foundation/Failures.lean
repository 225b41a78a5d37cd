import MessagingRelayer.Foundation.Json

/-!
# The errors a computation can end in

`FailsWith kind result` says that every error of the result is of a kind; a result that is no error
satisfies it for every kind. It is the postcondition of failure of a computation in `Except`, and
the rules follow the computation: values, errors, sequences (`FailsWith.bind`) and lists
(`FailsWith.mapM`).
-/

set_option autoImplicit false
set_option relaxedAutoImplicit false

namespace MessagingRelayer.Foundation

variable {Failure Value Out : Type} {kind wider : Failure → Prop}

/-- Every error of the result is of the kind. -/
def FailsWith (kind : Failure → Prop) (result : Except Failure Value) : Prop :=
  ∀ err, result = .error err → kind err

namespace FailsWith

theorem ok (value : Value) : FailsWith kind (.ok value : Except Failure Value) := by
  intro err herr
  cases herr

theorem error {err : Failure} (hkind : kind err) :
    FailsWith kind (.error err : Except Failure Value) := by
  intro found hfound
  obtain rfl := Except.error.inj hfound
  exact hkind

/-- Assumes: the kind lies within a wider one. -/
theorem mono {result : Except Failure Value} (hresult : FailsWith kind result)
    (hwider : ∀ err, kind err → wider err) : FailsWith wider result := by
  intro err herr
  exact hwider err (hresult err herr)

/-- A sequence fails as its first part, or as its second part on a value of the first. -/
theorem bind {result : Except Failure Value} {next : Value → Except Failure Out}
    (hresult : FailsWith kind result)
    (hnext : ∀ value, result = .ok value → FailsWith kind (next value)) :
    FailsWith kind (result >>= next) := by
  intro err herr
  cases hfirst : result with
  | error first =>
    rw [hfirst] at herr
    exact hresult err (hfirst.trans (congrArg _ (Except.error.inj herr)))
  | ok value =>
    rw [hfirst] at herr
    exact hnext value hfirst err herr

/-- A walk over a list fails as one of its steps. -/
theorem mapM {Item : Type} {visit : Item → Except Failure Value} {items : List Item}
    (hvisit : ∀ item ∈ items, FailsWith kind (visit item)) : FailsWith kind (items.mapM visit) := by
  induction items with
  | nil => exact ok []
  | cons item rest ih =>
    rw [List.mapM_cons]
    refine bind (hvisit item List.mem_cons_self) fun first _ ↦ ?_
    refine bind (ih fun later hlater ↦ hvisit later (List.mem_cons_of_mem _ hlater)) fun tail _ ↦ ?_
    exact ok (first :: tail)

end FailsWith

end MessagingRelayer.Foundation
