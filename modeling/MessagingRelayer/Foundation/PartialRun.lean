import Mathlib.Data.List.Induction
import Mathlib.Tactic.Common

/-!
# Runs of a labelled partial step function

A transition system is a partial function `step : State → Action → Option State`: `step s a` is the
state after action `a`, and `none` where `a` is not enabled in `s`. All the choices a scheduler, a
network or a clock makes are part of the action, so a run is the list of its actions.

`runFrom` executes a list of actions. `invariant_of_run` and `history_induction` are the two
induction rules: the first for a property of the state, the second for a property that relates the
state to the actions that led to it. `run_of_simulation` carries runs of one system over to another.
`EveryStep` says that every action of a run meets a condition in the state it is taken in, and
`history_induction_of_everyStep` is the rule for runs restricted in that way. `everyStep_of_reaches`
is the converse tool: a condition holds at every step when every step that breaks it would break a
property all reached states have. `Happened` says that some action of a run was an event of a kind,
and `LastHappened` that it was the last one.
-/

set_option autoImplicit false
set_option relaxedAutoImplicit false

namespace MessagingRelayer.Foundation

variable {State Action : Type*}

/-! ### Executing a list of actions -/

/-- The state a list of actions leads to, or `none` as soon as an action is not enabled. -/
def runFrom (step : State → Action → Option State) (start : State) : List Action → Option State
  | [] => some start
  | action :: rest => (step start action).bind fun next ↦ runFrom step next rest

variable {step : State → Action → Option State} {start finish : State}

@[simp] theorem runFrom_nil : runFrom step start [] = some start :=
  rfl

@[simp] theorem runFrom_cons (action : Action) (rest : List Action) :
    runFrom step start (action :: rest) =
      (step start action).bind fun next ↦ runFrom step next rest :=
  rfl

/-- A run along two lists of actions is a run along the first and then along the second. -/
theorem runFrom_append (first second : List Action) :
    runFrom step start (first ++ second) =
      (runFrom step start first).bind fun middle ↦ runFrom step middle second := by
  induction first generalizing start with
  | nil => rfl
  | cons action rest ih =>
    rw [List.cons_append, runFrom_cons, runFrom_cons, Option.bind_assoc]
    exact congrArg _ (funext fun next ↦ ih)

theorem runFrom_append_eq_some {first second : List Action} :
    runFrom step start (first ++ second) = some finish ↔
      ∃ middle, runFrom step start first = some middle ∧
        runFrom step middle second = some finish := by
  rw [runFrom_append, Option.bind_eq_some_iff]

theorem runFrom_concat_eq_some {past : List Action} {action : Action} :
    runFrom step start (past ++ [action]) = some finish ↔
      ∃ before, runFrom step start past = some before ∧ step before action = some finish := by
  rw [runFrom_append_eq_some]
  simp only [runFrom_cons, runFrom_nil, Option.bind_fun_some]

/-! ### Induction along a run -/

/-- A property of the state that the start has and every step keeps holds at the end of every
run. -/
theorem invariant_of_run (property : State → Prop) {actions : List Action}
    (hstart : property start)
    (hstep : ∀ before action after, property before → step before action = some after →
      property after)
    (hrun : runFrom step start actions = some finish) : property finish := by
  induction actions generalizing start with
  | nil =>
    obtain rfl : start = finish := by simpa using hrun
    exact hstart
  | cons action rest ih =>
    obtain ⟨next, hnext, hrest⟩ := Option.bind_eq_some_iff.mp hrun
    exact ih (hstep start action next hstart hnext) hrest

/-- Assumes: a relation between the states of two systems that the starts have, and every step of
the first system is matched by actions of the second that restore it. Then every run of the first
system is matched by a run of the second. -/
theorem run_of_simulation {State' Action' : Type*} {step' : State' → Action' → Option State'}
    {start' : State'} (related : State → State' → Prop) {actions : List Action}
    (hstart : related start start')
    (hstep : ∀ before action after before', related before before' →
      step before action = some after →
        ∃ actions' after', runFrom step' before' actions' = some after' ∧ related after after')
    (hrun : runFrom step start actions = some finish) :
    ∃ actions' finish', runFrom step' start' actions' = some finish' ∧ related finish finish' := by
  refine invariant_of_run (fun reached ↦
    ∃ actions' reached', runFrom step' start' actions' = some reached' ∧ related reached reached')
    ⟨[], start', rfl, hstart⟩ ?_ hrun
  rintro before action after ⟨past, before', hpast, hrelated⟩ hnext
  obtain ⟨more, after', hmore, hlater⟩ := hstep before action after before' hrelated hnext
  exact ⟨past ++ more, after', runFrom_append_eq_some.mpr ⟨before', hpast, hmore⟩, hlater⟩

/-- The condition `cond` holds of every action of the run, in the state the action is taken in. -/
def EveryStep (step : State → Action → Option State) (cond : State → Action → Prop)
    (start : State) (actions : List Action) : Prop :=
  ∀ (past : List Action) (action : Action) (rest : List Action) (before : State),
    actions = past ++ action :: rest → runFrom step start past = some before → cond before action

section EveryStep

variable {cond : State → Action → Prop}

theorem EveryStep.nil : EveryStep step cond start [] := by
  intro past action rest before hsplit
  simp at hsplit

/-- A condition met at every step is met at every step of a prefix. -/
theorem EveryStep.of_append {first second : List Action}
    (hevery : EveryStep step cond start (first ++ second)) :
    EveryStep step cond start first := by
  intro past action rest before hsplit hpast
  refine hevery past action (rest ++ second) before ?_ hpast
  rw [hsplit, List.append_assoc, List.cons_append]

/-- A condition met at every step is met at every step after a prefix. -/
theorem EveryStep.after {first second : List Action} {middle : State}
    (hevery : EveryStep step cond start (first ++ second))
    (hfirst : runFrom step start first = some middle) : EveryStep step cond middle second := by
  intro past action rest before hsplit hpast
  refine hevery (first ++ past) action rest before ?_ ?_
  · rw [hsplit, List.append_assoc]
  · exact runFrom_append_eq_some.mpr ⟨middle, hfirst, hpast⟩

/-- The last action of a run meets the condition. -/
theorem EveryStep.last {past : List Action} {action : Action} {before : State}
    (hevery : EveryStep step cond start (past ++ [action]))
    (hpast : runFrom step start past = some before) : cond before action :=
  hevery past action [] before rfl hpast

theorem everyStep_cons_iff {action : Action} {rest : List Action} :
    EveryStep step cond start (action :: rest) ↔
      cond start action ∧ ∀ next, step start action = some next →
        EveryStep step cond next rest := by
  constructor
  · intro hevery
    refine ⟨hevery [] action rest start rfl rfl, ?_⟩
    intro next hnext past later tail before hsplit hpast
    refine hevery (action :: past) later tail before (by rw [hsplit]; rfl) ?_
    rw [runFrom_cons, hnext]
    exact hpast
  · rintro ⟨hfirst, hrest⟩ past later tail before hsplit hpast
    cases past with
    | nil =>
      obtain ⟨rfl, rfl⟩ : action = later ∧ rest = tail := by simpa using hsplit
      obtain rfl : start = before := by simpa using hpast
      exact hfirst
    | cons head past =>
      obtain ⟨rfl, htail⟩ : action = head ∧ rest = past ++ later :: tail := by
        simpa using hsplit
      obtain ⟨next, hnext, hreached⟩ := Option.bind_eq_some_iff.mp hpast
      exact hrest next hnext past later tail before htail hreached

/-- A condition that an action meets in every state is met wherever the action is taken. -/
theorem EveryStep.of_forall {actions : List Action}
    (hmeets : ∀ action ∈ actions, ∀ before, cond before action) :
    EveryStep step cond start actions := by
  intro past action rest before hsplit _
  exact hmeets action (by rw [hsplit]; simp) before

/-- A condition is met at every step of a run in two parts when it is met at every step of each. -/
theorem EveryStep.append {first second : List Action} {middle : State}
    (hfirst : EveryStep step cond start first) (hmiddle : runFrom step start first = some middle)
    (hsecond : EveryStep step cond middle second) :
    EveryStep step cond start (first ++ second) := by
  induction first generalizing start with
  | nil =>
    obtain rfl : start = middle := by simpa using hmiddle
    exact hsecond
  | cons action rest ih =>
    obtain ⟨hmeets, hrest⟩ := everyStep_cons_iff.mp hfirst
    refine everyStep_cons_iff.mpr ⟨hmeets, fun next hnext ↦ ?_⟩
    obtain ⟨reached, hreached, hafter⟩ := Option.bind_eq_some_iff.mp hmiddle
    obtain rfl : next = reached := Option.some.inj (hnext.symm.trans hreached)
    exact ih (hrest next hnext) hafter

instance EveryStep.decidable [∀ before action, Decidable (cond before action)] :
    (start : State) → (actions : List Action) → Decidable (EveryStep step cond start actions)
  | _, [] => isTrue EveryStep.nil
  | start, action :: rest =>
    match hnext : step start action with
    | none => decidable_of_iff (cond start action) (by simp [everyStep_cons_iff, hnext])
    | some next =>
      have := EveryStep.decidable next rest
      decidable_of_iff (cond start action ∧ EveryStep step cond next rest)
        (by simp [everyStep_cons_iff, hnext])

/-- Assumes: every step of the run meets `cond`. A relation between the actions taken and the state
reached holds at the end when it holds at the start and every step that meets `cond` keeps it. -/
theorem history_induction_of_everyStep (relation : List Action → State → Prop)
    {actions : List Action} (hstart : relation [] start)
    (hstep : ∀ past before action after, runFrom step start past = some before →
      relation past before → cond before action → step before action = some after →
        relation (past ++ [action]) after)
    (hevery : EveryStep step cond start actions)
    (hrun : runFrom step start actions = some finish) : relation actions finish := by
  induction actions using List.reverseRecOn generalizing finish with
  | nil =>
    obtain rfl : start = finish := by simpa using hrun
    exact hstart
  | append_singleton past action ih =>
    obtain ⟨before, hpast, hlast⟩ := runFrom_concat_eq_some.mp hrun
    exact hstep past before action finish hpast (ih hevery.of_append hpast) (hevery.last hpast)
      hlast

/-- A condition is met at every step of a run when every step that breaks it, taken after a prefix
of the run, contradicts what is known of the run. -/
theorem everyStep_of_reaches {actions : List Action}
    (hrun : runFrom step start actions = some finish)
    (hmeets : ∀ past action rest before after, actions = past ++ action :: rest →
      runFrom step start past = some before → step before action = some after →
        cond before action) :
    EveryStep step cond start actions := by
  intro past action rest before hsplit hpast
  have hwhole : runFrom step start (past ++ action :: rest) = some finish := hsplit ▸ hrun
  obtain ⟨middle, hmiddle, hrest⟩ := runFrom_append_eq_some.mp hwhole
  obtain rfl : before = middle := Option.some.inj (hpast.symm.trans hmiddle)
  obtain ⟨after, hafter, -⟩ := Option.bind_eq_some_iff.mp hrest
  exact hmeets past action rest before after hsplit hpast hafter

end EveryStep

/-- A relation between the actions taken and the state reached holds at the end of every run when it
holds at the start and every step keeps it. -/
theorem history_induction (relation : List Action → State → Prop) {actions : List Action}
    (hstart : relation [] start)
    (hstep : ∀ past before action after, runFrom step start past = some before →
      relation past before → step before action = some after →
        relation (past ++ [action]) after)
    (hrun : runFrom step start actions = some finish) : relation actions finish :=
  have hevery : EveryStep step (fun _ _ ↦ True) start actions := fun _ _ _ _ _ _ ↦ trivial
  history_induction_of_everyStep relation hstart
    (fun past before action after hpast hrelation _ hafter ↦
      hstep past before action after hpast hrelation hafter)
    hevery hrun

/-! ### What happened in a run -/

/-- Some action of the run, in the state it was taken in, was the event. -/
def Happened (step : State → Action → Option State) (start : State) (actions : List Action)
    (event : State → Action → Prop) : Prop :=
  ∃ past action rest before, actions = past ++ action :: rest ∧
    runFrom step start past = some before ∧ event before action

section Happened

variable {event : State → Action → Prop} {past : List Action} {before : State}

theorem not_happened_nil : ¬ Happened step start [] event := by
  rintro ⟨past, action, rest, before, hsplit, -⟩
  simp at hsplit

/-- What happened in a run has happened in every run that goes on from it. -/
theorem Happened.append {first : List Action} (hhappened : Happened step start first event)
    (second : List Action) : Happened step start (first ++ second) event := by
  obtain ⟨past, action, rest, before, rfl, hpast, hevent⟩ := hhappened
  exact ⟨past, action, rest ++ second, before, by simp, hpast, hevent⟩

/-- An event happened in a longer run exactly when it happened before or is the last step. -/
theorem happened_concat_iff {action : Action} (hpast : runFrom step start past = some before) :
    Happened step start (past ++ [action]) event ↔
      Happened step start past event ∨ event before action := by
  constructor
  · rintro ⟨first, found, rest, reached, hsplit, hfirst, hevent⟩
    rcases List.eq_nil_or_concat rest with rfl | ⟨others, last, rfl⟩
    · obtain ⟨rfl, hlast⟩ := List.append_inj' hsplit rfl
      obtain rfl : action = found := by simpa using hlast
      obtain rfl : before = reached := Option.some.inj (hpast.symm.trans hfirst)
      exact Or.inr hevent
    · have hsame : past ++ [action] = (first ++ found :: others) ++ [last] := by
        rw [hsplit]
        simp
      obtain ⟨rfl, -⟩ := List.append_inj' hsame rfl
      exact Or.inl ⟨first, found, others, reached, rfl, hfirst, hevent⟩
  · rintro (⟨first, found, rest, reached, rfl, hfirst, hevent⟩ | hevent)
    · exact ⟨first, found, rest ++ [action], reached, by simp, hfirst, hevent⟩
    · exact ⟨past, action, [], before, rfl, hpast, hevent⟩

end Happened

/-! ### What happened last in a run -/

/-- Some action of the run was the event with this value, and no later one was the
event with any. -/
def LastHappened {Value : Type*} (step : State → Action → Option State) (start : State)
    (actions : List Action) (event : Value → State → Action → Prop) (value : Value) : Prop :=
  ∃ past action rest before after, actions = past ++ action :: rest ∧
    runFrom step start past = some before ∧ event value before action ∧
    step before action = some after ∧
    EveryStep step (fun reached later ↦ ∀ other, ¬ event other reached later) after rest

section LastHappened

variable {Value : Type*} {event : Value → State → Action → Prop} {value : Value}
  {past : List Action} {action : Action} {before : State}

/-- An event that is the last step of a run happened last. -/
theorem LastHappened.of_last {after : State} (hpast : runFrom step start past = some before)
    (hstep : step before action = some after) (hevent : event value before action) :
    LastHappened step start (past ++ [action]) event value :=
  ⟨past, action, [], before, after, rfl, hpast, hevent, hstep, .nil⟩

/-- What happened last still did after a step that is not the event. -/
theorem LastHappened.concat (hlast : LastHappened step start past event value)
    (hpast : runFrom step start past = some before)
    (hother : ∀ other, ¬ event other before action) :
    LastHappened step start (past ++ [action]) event value := by
  obtain ⟨first, found, rest, reached, after, rfl, hfirst, hevent, hstep, hrest⟩ := hlast
  obtain ⟨middle, hmiddle, hlater⟩ := runFrom_append_eq_some.mp hpast
  obtain rfl : reached = middle := Option.some.inj (hfirst.symm.trans hmiddle)
  rw [runFrom_cons, hstep] at hlater
  refine ⟨first, found, rest ++ [action], reached, after, by simp, hfirst, hevent, hstep, ?_⟩
  refine hrest.append hlater (everyStep_cons_iff.mpr ⟨hother, fun next _ ↦ .nil⟩)

/-- An event with a value happened last in a longer run exactly when it is the last step, or it
happened last before and the last step is no event of the kind. -/
theorem lastHappened_concat_iff {after : State} (hpast : runFrom step start past = some before)
    (hstep : step before action = some after) :
    LastHappened step start (past ++ [action]) event value ↔ event value before action ∨
      (LastHappened step start past event value ∧ ∀ other, ¬ event other before action) := by
  constructor
  · rintro ⟨first, found, rest, reached, next, hsplit, hfirst, hevent, hnext, hrest⟩
    rcases List.eq_nil_or_concat rest with rfl | ⟨others, last, rfl⟩
    · obtain ⟨rfl, hlast⟩ := List.append_inj' hsplit rfl
      obtain rfl : action = found := by simpa using hlast
      obtain rfl : before = reached := Option.some.inj (hpast.symm.trans hfirst)
      exact Or.inl hevent
    · have hsame : past ++ [action] = (first ++ found :: others) ++ [last] := by
        simpa [List.concat_eq_append] using hsplit
      obtain ⟨rfl, hlast⟩ := List.append_inj' hsame rfl
      obtain rfl : action = last := by simpa using hlast
      obtain ⟨middle, hmiddle, hlater⟩ := runFrom_append_eq_some.mp hpast
      obtain rfl : reached = middle := Option.some.inj (hfirst.symm.trans hmiddle)
      rw [runFrom_cons, hnext] at hlater
      rw [List.concat_eq_append] at hrest
      exact Or.inr ⟨⟨first, found, others, reached, next, rfl, hfirst, hevent, hnext,
        hrest.of_append⟩, hrest.last hlater⟩
  · rintro (hevent | ⟨hlast, hother⟩)
    · exact .of_last hpast hstep hevent
    · exact hlast.concat hpast hother

theorem not_lastHappened_nil : ¬ LastHappened step start [] event value := by
  rintro ⟨first, found, rest, reached, next, hsplit, -⟩
  simp at hsplit

end LastHappened

end MessagingRelayer.Foundation
