import MessagingRelayer.Foundation.PartialRun

/-!
# Operations that take effect one at a time

In a concurrent system an operation is spread over several steps, and takes effect in one of them.
`effects` lists the operations of a run in the order in which they take effect. The sequential
object executes that list, one operation after the other. Where every step of the system keeps it
related to an object that executes the operation of the step, every run leaves it related to the
object that has executed the whole list (`related_of_run`, and `related_of_everyStep` for runs whose
steps meet a condition).
-/

set_option autoImplicit false
set_option relaxedAutoImplicit false

namespace MessagingRelayer.Foundation

variable {State Action Call Object : Type*}

/-- The operations that take effect along a run, in their order. -/
def effects (step : State → Action → Option State) (effect : State → Action → Option Call) :
    State → List Action → List Call
  | _, [] => []
  | start, action :: rest =>
    (effect start action).toList ++
      match step start action with
      | none => []
      | some next => effects step effect next rest

section Effects

variable {step : State → Action → Option State} {effect : State → Action → Option Call}
  {cond : State → Action → Prop} {start finish before : State} {actions past : List Action}

/-- One more step adds the operation that takes effect in it. -/
theorem effects_concat (hpast : runFrom step start past = some before) (action : Action) :
    effects step effect start (past ++ [action]) =
      effects step effect start past ++ (effect before action).toList := by
  induction past generalizing start with
  | nil =>
    obtain rfl : start = before := by simpa using hpast
    simp only [List.nil_append, effects]
    cases step start action <;> simp
  | cons first rest ih =>
    obtain ⟨next, hnext, hrest⟩ := Option.bind_eq_some_iff.mp hpast
    simp only [List.cons_append, effects, hnext, ih hrest, List.append_assoc]

/-- An operation that takes effect at an action of the run is in the list. -/
theorem mem_effects {action : Action} {rest : List Action} {call : Call}
    (hpast : runFrom step start past = some before) (hcall : effect before action = some call) :
    call ∈ effects step effect start (past ++ action :: rest) := by
  induction past generalizing start with
  | nil =>
    obtain rfl : start = before := by simpa using hpast
    rw [List.nil_append, effects, hcall]
    exact List.mem_append_left _ (List.mem_singleton_self call)
  | cons first rest ih =>
    obtain ⟨next, hnext, hrest⟩ := Option.bind_eq_some_iff.mp hpast
    simp only [List.cons_append, effects, hnext]
    exact List.mem_append_right _ (ih hrest)

variable {perform : Object → Call → Object} {object : Object}

/-- Assumes: every step of the run meets `cond`, and a step that does keeps the system related to an
object that executes the operation of the step. -/
theorem related_of_everyStep (related : State → Object → Prop) (hstart : related start object)
    (hstep : ∀ past before action after reached, runFrom step start past = some before →
      related before reached → cond before action → step before action = some after →
        related after ((effect before action).toList.foldl perform reached))
    (hevery : EveryStep step cond start actions)
    (hrun : runFrom step start actions = some finish) :
    related finish ((effects step effect start actions).foldl perform object) := by
  refine history_induction_of_everyStep (fun past reached ↦
    related reached ((effects step effect start past).foldl perform object)) hstart ?_ hevery hrun
  intro past before action after hpast hrelated hcond hafter
  rw [effects_concat hpast, List.foldl_append]
  exact hstep past before action after _ hpast hrelated hcond hafter

/-- Assumes: every step keeps the system related to an object that executes the operation of the
step. -/
theorem related_of_run (related : State → Object → Prop) (hstart : related start object)
    (hstep : ∀ past before action after reached, runFrom step start past = some before →
      related before reached → step before action = some after →
        related after ((effect before action).toList.foldl perform reached))
    (hrun : runFrom step start actions = some finish) :
    related finish ((effects step effect start actions).foldl perform object) :=
  have hevery : EveryStep step (fun _ _ ↦ True) start actions := fun _ _ _ _ _ _ ↦ trivial
  related_of_everyStep related hstart
    (fun past before action after reached hpast hrelated _ hafter ↦
      hstep past before action after reached hpast hrelated hafter)
    hevery hrun

end Effects

end MessagingRelayer.Foundation
