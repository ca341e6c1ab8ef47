/- module: Boo/Lib/Runs
   digest: Properties of every step and of every state of a run, and when two agree. -/

import Mathlib.Data.List.Basic

set_option autoImplicit false
set_option relaxedAutoImplicit false

namespace Boo.Lib.Runs

variable {S E : Type} (step : S → E → S)

/-- Every step of the run satisfies `P`, which sees the state before the step. -/
def Always (P : S → E → Prop) : S → List E → Prop
  | _, [] => True
  | state, event :: events => P state event ∧ Always P (step state event) events

def decidableAlways {P : S → E → Prop} (decides : ∀ state event, Decidable (P state event))
    (state : S) : (events : List E) → Decidable (Always step P state events)
  | [] => isTrue trivial
  | event :: events => @instDecidableAnd _ _ (decides state event)
      (decidableAlways decides (step state event) events)

instance {P : S → E → Prop} [decides : ∀ state event, Decidable (P state event)] (state : S)
    (events : List E) : Decidable (Always step P state events) :=
  decidableAlways step decides state events

/-- Every state that the run visits, the first one included, satisfies `Inv`. -/
def Throughout (Inv : S → Prop) : S → List E → Prop
  | state, [] => Inv state
  | state, event :: events => Inv state ∧ Throughout Inv (step state event) events

variable {step} {P Q Ok : S → E → Prop} {Inv Known : S → Prop}

theorem always_true (state : S) (events : List E) :
    Always step (fun _ _ => True) state events := by
  induction events generalizing state with
  | nil => trivial
  | cons event events ih => exact ⟨trivial, ih _⟩

theorem always_append {state : S} {events later : List E} :
    Always step P state (events ++ later) ↔
      Always step P state events ∧ Always step P (events.foldl step state) later := by
  induction events generalizing state with
  | nil => exact (and_iff_right trivial).symm
  | cons event events ih => exact (and_congr_right fun _ => ih).trans and_assoc.symm

theorem always_map {D : Type} (f : D → E) {state : S} {events : List D} :
    Always step P state (events.map f) ↔
      Always (fun state event => step state (f event)) (fun state event => P state (f event)) state
        events := by
  induction events generalizing state with
  | nil => exact Iff.rfl
  | cons event events ih => exact and_congr_right fun _ => ih

theorem always_of_forall (step : S → E → S) (state : S) {Admitted : E → Prop} {events : List E}
    (admitted : ∀ event ∈ events, Admitted event) :
    Always step (fun _ event => Admitted event) state events := by
  induction events generalizing state with
  | nil => trivial
  | cons event events ih =>
      exact ⟨admitted event List.mem_cons_self,
        ih _ fun other member => admitted other (List.mem_cons_of_mem _ member)⟩

/-- Two properties of steps hold along the same runs when they agree wherever an invariant
holds that either of them keeps. -/
theorem always_congr (keeps : ∀ state event, Known state → Ok state event → P state event →
      Known (step state event))
    (agree : ∀ state event, Known state → Ok state event → (P state event ↔ Q state event))
    {state : S} {events : List E} (start : Known state) (admitted : Always step Ok state events) :
    Always step P state events ↔ Always step Q state events := by
  induction events generalizing state with
  | nil => exact Iff.rfl
  | cons event events ih =>
      obtain ⟨first, later⟩ := admitted
      have here := agree state event start first
      constructor
      · rintro ⟨holds, rest⟩
        have known := keeps state event start first holds
        exact ⟨here.mp holds, (ih known later).mp rest⟩
      · rintro ⟨holds, rest⟩
        have known := keeps state event start first (here.mpr holds)
        exact ⟨here.mpr holds, (ih known later).mpr rest⟩

/-- What `Known` gives holds throughout exactly the runs whose steps all meet the condition under
which a step keeps `Known`, when a step that does not meet it breaks what is given. -/
theorem throughout_iff_of_kept (gives : ∀ state, Known state → Inv state)
    (keeps : ∀ state event, Known state → Q state event → Known (step state event))
    (needs : ∀ state event, Known state → Inv (step state event) → Q state event)
    {state : S} {events : List E} (known : Known state) :
    Throughout step Inv state events ↔ Always step Q state events := by
  induction events generalizing state with
  | nil => exact ⟨fun _ => trivial, fun _ => gives state known⟩
  | cons event events ih =>
      constructor
      · rintro ⟨-, rest⟩
        have next : Inv (step state event) := by
          cases events with
          | nil => exact rest
          | cons other events => exact rest.1
        have holds := needs state event known next
        exact ⟨holds, (ih (keeps state event known holds)).mp rest⟩
      · rintro ⟨holds, rest⟩
        exact ⟨gives state known, (ih (keeps state event known holds)).mpr rest⟩

/-- An invariant holds throughout exactly the runs whose steps all meet the condition under
which one step keeps it. -/
theorem throughout_iff (keeps : ∀ state event, Known state → Known (step state event))
    (exact_ : ∀ state event, Known state → Inv state → (Inv (step state event) ↔ Q state event))
    {state : S} {events : List E} (known : Known state) (start : Inv state) :
    Throughout step Inv state events ↔ Always step Q state events := by
  have both : Known state ∧ Inv state := ⟨known, start⟩
  refine @throughout_iff_of_kept S E step Q Inv (fun state => Known state ∧ Inv state)
    (fun _ held => held.2) ?_ ?_ state events both
  · rintro state event ⟨known, holds⟩ meets
    exact ⟨keeps state event known, (exact_ state event known holds).mpr meets⟩
  · rintro state event ⟨known, holds⟩ next
    exact (exact_ state event known holds).mp next

/-- The invariant rule. -/
theorem always_of_invariant (keeps : ∀ state event, Known state → Ok state event →
      Known (step state event))
    (gives : ∀ state event, Known state → Ok state event → P state event)
    {state : S} {events : List E} (start : Known state) (admitted : Always step Ok state events) :
    Always step P state events := by
  induction events generalizing state with
  | nil => trivial
  | cons event events ih =>
      obtain ⟨first, later⟩ := admitted
      exact ⟨gives state event start first, ih (keeps state event start first) later⟩

/-- The invariant rule for the states of a run. -/
theorem throughout_of_invariant (keeps : ∀ state event, Known state → Ok state event →
      Known (step state event))
    (gives : ∀ state, Known state → Inv state)
    {state : S} {events : List E} (start : Known state) (admitted : Always step Ok state events) :
    Throughout step Inv state events := by
  induction events generalizing state with
  | nil => exact gives state start
  | cons event events ih =>
      obtain ⟨first, later⟩ := admitted
      exact ⟨gives state start, ih (keeps state event start first) later⟩

/-- The last state of a run is one that it visits. -/
theorem Throughout.final {state : S} {events : List E}
    (run : Throughout step Inv state events) : Inv (events.foldl step state) := by
  induction events generalizing state with
  | nil => exact run
  | cons event events ih => exact ih run.2

end Boo.Lib.Runs
