import MessagingRelayer.Foundation.PartialRun
import Mathlib.Data.List.Forall2

/-!
# Purging a run

Some actions of a run are visible, the others are hidden. When a hidden action changes nothing an
observer can see, and a visible action is matched by an action that has the same visible effect with
the hidden ones left out, then the matching actions are a run, and it ends in a state the observer
cannot tell from the one the whole run ends in (`run_of_unwinding`). Where the matching action is
the visible action itself, leaving out the hidden actions gives a run (`run_filter_of_unwinding`).
What the observer sees is a relation between a state of the whole run and one of the purged run.
-/

set_option autoImplicit false
set_option relaxedAutoImplicit false

namespace MessagingRelayer.Foundation

variable {State State' Action Action' : Type*} {step : State → Action → Option State}
  {cond : State → Action → Prop} {start finish : State} {start' : State'} {actions : List Action}

/-- Assumes: every step of the run meets `cond`; a hidden step that does keeps the states related,
and a visible one is matched by an action that is like it. Then such actions are a run that ends in
a related state. -/
theorem run_of_unwinding {step' : State' → Action' → Option State'} (visible : Action → Bool)
    (alike : Action → Action' → Prop) (related : State → State' → Prop)
    (hstart : related start start')
    (hhidden : ∀ past before action after before', runFrom step start past = some before →
      related before before' → cond before action → visible action = false →
        step before action = some after → related after before')
    (hvisible : ∀ past before action after past' before', runFrom step start past = some before →
      runFrom step' start' past' = some before' → related before before' → cond before action →
        visible action = true → step before action = some after →
          ∃ action' after', alike action action' ∧ step' before' action' = some after' ∧
            related after after')
    (hevery : EveryStep step cond start actions)
    (hrun : runFrom step start actions = some finish) :
    ∃ own finish', List.Forall₂ alike (actions.filter visible) own ∧
      runFrom step' start' own = some finish' ∧ related finish finish' := by
  refine history_induction_of_everyStep (fun past reached ↦
    ∃ own reached', List.Forall₂ alike (past.filter visible) own ∧
      runFrom step' start' own = some reached' ∧ related reached reached')
    ⟨[], start', .nil, rfl, hstart⟩ ?_ hevery hrun
  rintro past before action after hpast ⟨own, before', halike, hpurged, hrelated⟩ hcond hstep
  rw [List.filter_append]
  cases haction : visible action with
  | false =>
    refine ⟨own, before', ?_, hpurged, hhidden past before action after before' hpast hrelated
      hcond haction hstep⟩
    simpa [haction] using halike
  | true =>
    obtain ⟨action', after', hlike, hafter, hlater⟩ :=
      hvisible past before action after own before' hpast hpurged hrelated hcond haction hstep
    refine ⟨own ++ [action'], after', ?_, runFrom_concat_eq_some.mpr ⟨before', hpurged, hafter⟩,
      hlater⟩
    rw [List.filter_cons, if_pos haction, List.filter_nil]
    exact List.rel_append halike (.cons hlike .nil)

/-- Assumes: every step of the run meets `cond`; a hidden step that does keeps the states related,
and a visible one is matched by the same action. Then the visible actions are a run that ends in a
related state. -/
theorem run_filter_of_unwinding {step' : State' → Action → Option State'}
    (visible : Action → Bool) (related : State → State' → Prop) (hstart : related start start')
    (hhidden : ∀ past before action after before', runFrom step start past = some before →
      related before before' → cond before action → visible action = false →
        step before action = some after → related after before')
    (hvisible : ∀ past before action after before', runFrom step start past = some before →
      related before before' → cond before action → visible action = true →
        step before action = some after →
          ∃ after', step' before' action = some after' ∧ related after after')
    (hevery : EveryStep step cond start actions)
    (hrun : runFrom step start actions = some finish) :
    ∃ finish', runFrom step' start' (actions.filter visible) = some finish' ∧
      related finish finish' := by
  obtain ⟨own, finish', halike, hpurged, hrelated⟩ := run_of_unwinding visible Eq related hstart
    hhidden (fun past before action after _ before' hpast _ hrelated hcond haction hstep ↦ by
      obtain ⟨after', hafter, hlater⟩ :=
        hvisible past before action after before' hpast hrelated hcond haction hstep
      exact ⟨action, after', rfl, hafter, hlater⟩) hevery hrun
  rw [List.forall₂_eq_eq_eq] at halike
  subst halike
  exact ⟨finish', hpurged, hrelated⟩

end MessagingRelayer.Foundation
