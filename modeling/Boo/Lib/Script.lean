/- module: Boo/Lib/Script
   digest: Programs that read a state and change it only through named actions. -/

import Mathlib.Data.List.Basic

set_option autoImplicit false
set_option relaxedAutoImplicit false

namespace Boo.Lib.Script

/-- A program over states `S` whose only effects are actions of `A`. -/
inductive Program (S A R : Type)
  | stop (value : R)
  | look (next : S → Program S A R)
  | act (action : A) (next : Program S A R)

namespace Program

variable {S A Q R : Type}

def andThen : Program S A Q → (Q → Program S A R) → Program S A R
  | stop value, next => next value
  | look inner, next => look fun state => andThen (inner state) next
  | act action inner, next => act action (andThen inner next)

instance : Monad (Program S A) where
  pure := stop
  bind := andThen

/-- The current state. -/
def current : Program S A S := look stop

/-- Perform one action. -/
def perform (action : A) : Program S A Unit := act action (stop ())

end Program

section Execution

open Program

variable {S A Q R : Type} (step : S → A → S)

def result : Program S A R → S → R
  | stop value, _ => value
  | look next, state => result (next state) state
  | act action next, state => result next (step state action)

def final : Program S A R → S → S
  | stop _, state => state
  | look next, state => final (next state) state
  | act action next, state => final next (step state action)

/-- The actions performed, each with the state it was performed in. -/
def trace : Program S A R → S → List (S × A)
  | stop _, _ => []
  | look next, state => trace (next state) state
  | act action next, state => (state, action) :: trace next (step state action)

@[simp] theorem result_current (state : S) : result step (current : Program S A S) state = state :=
  rfl

@[simp] theorem final_current (state : S) : final step (current : Program S A S) state = state :=
  rfl

@[simp] theorem final_perform (action : A) (state : S) :
    final step (perform action) state = step state action := rfl

@[simp] theorem trace_perform (action : A) (state : S) :
    trace step (perform action) state = [(state, action)] := rfl

@[simp] theorem result_bind (first : Program S A Q) (next : Q → Program S A R) (state : S) :
    result step (first >>= next) state =
      result step (next (result step first state)) (final step first state) := by
  change result step (first.andThen next) state = _
  induction first generalizing state with
  | stop value => rfl
  | look inner ih => exact ih state state
  | act action inner ih => exact ih (step state action)

@[simp] theorem final_bind (first : Program S A Q) (next : Q → Program S A R) (state : S) :
    final step (first >>= next) state =
      final step (next (result step first state)) (final step first state) := by
  change final step (first.andThen next) state = _
  induction first generalizing state with
  | stop value => rfl
  | look inner ih => exact ih state state
  | act action inner ih => exact ih (step state action)

@[simp] theorem trace_bind (first : Program S A Q) (next : Q → Program S A R) (state : S) :
    trace step (first >>= next) state =
      trace step first state ++
        trace step (next (result step first state)) (final step first state) := by
  change trace step (first.andThen next) state = _
  induction first generalizing state with
  | stop value => rfl
  | look inner ih => exact ih state state
  | act action inner ih => exact congrArg ((state, action) :: ·) (ih (step state action))

/-- A program is the fold of its actions. -/
theorem final_eq_foldl (program : Program S A R) (state : S) :
    final step program state = ((trace step program state).map Prod.snd).foldl step state := by
  induction program generalizing state with
  | stop value => rfl
  | look next ih => exact ih state state
  | act action next ih => exact ih (step state action)

/-- A loop that performs one action for each item. -/
theorem final_forM {I : Type} (action : I → A) (items : List I) (state : S) :
    final step (items.forM fun item => (perform (action item) : Program S A Unit)) state =
      items.foldl (fun state item => step state (action item)) state := by
  induction items generalizing state with
  | nil => rfl
  | cons item items ih =>
      show final step (perform (action item) >>= fun _ =>
        items.forM fun item => perform (action item)) state = _
      rw [final_bind, final_perform, ih, List.foldl_cons]

/-- Actions with the states they are performed in, from `state` on. -/
def Chain : S → List (S × A) → Prop
  | _, [] => True
  | state, (at_, action) :: rest => at_ = state ∧ Chain (step state action) rest

theorem chain_trace (program : Program S A R) (state : S) :
    Chain step state (trace step program state) := by
  induction program generalizing state with
  | stop value => trivial
  | look next ih => exact ih state state
  | act action next ih => exact ⟨rfl, ih (step state action)⟩

/-- The state that a chain of actions ends in. -/
def chainEnd (state : S) (entries : List (S × A)) : S :=
  (entries.map Prod.snd).foldl step state

/-- Whether something stands after the entries: the last one that bears on it decides. -/
def standing (bearing : S × A → Option Bool) (ok : Bool) (entries : List (S × A)) : Bool :=
  entries.foldl (fun ok entry => (bearing entry).getD ok) ok

/-- What stands at the end of a chain holds there, if every action leaves it standing only where
it holds, or held before. -/
theorem standing_chain {Known Inv : S → Prop} {Ok : S → A → Prop}
    {bearing : S × A → Option Bool}
    (keeps : ∀ state action, Known state → Ok state action → Known (step state action))
    (gives : ∀ state action ok, Known state → Ok state action → (ok = true → Inv state) →
      (bearing (state, action)).getD ok = true → Inv (step state action))
    {entries : List (S × A)} {state : S} {ok : Bool} (chain : Chain step state entries)
    (known : Known state) (admitted : ∀ entry ∈ entries, Ok entry.1 entry.2)
    (start : ok = true → Inv state) (stands : standing bearing ok entries = true) :
    Inv (chainEnd step state entries) := by
  induction entries generalizing state ok with
  | nil => exact start stands
  | cons entry entries ih =>
      obtain ⟨before, action⟩ := entry
      obtain ⟨rfl, chain⟩ := chain
      have first := admitted (before, action) List.mem_cons_self
      exact ih chain (keeps before action known first)
        (fun other member => admitted other (List.mem_cons_of_mem _ member))
        (gives before action ok known first start) stands

/-- The invariant rule: what every admitted action keeps, every program keeps. -/
theorem final_invariant {Inv : S → Prop} {Ok : S → A → Prop}
    (keeps : ∀ state action, Inv state → Ok state action → Inv (step state action))
    (program : Program S A R) {state : S} (start : Inv state)
    (admitted : ∀ entry ∈ trace step program state, Ok entry.1 entry.2) :
    Inv (final step program state) := by
  induction program generalizing state with
  | stop value => exact start
  | look next ih => exact ih state start admitted
  | act action next ih =>
      have first := admitted (state, action) List.mem_cons_self
      exact ih (keeps state action start first) fun entry member =>
        admitted entry (List.mem_cons_of_mem _ member)

/-- Every action that the program performs from this state is admitted. -/
def Admits (Ok : S → A → Prop) (program : Program S A R) (state : S) : Prop :=
  ∀ entry ∈ trace step program state, Ok entry.1 entry.2

/-- Every action that the program performs, from any state, is admitted. -/
def Performs (Ok : S → A → Prop) (program : Program S A R) : Prop :=
  ∀ state, ∀ entry ∈ trace step program state, Ok entry.1 entry.2

variable {step} {Ok : S → A → Prop}

theorem Admits.of_bind {first : Program S A Q} {next : Q → Program S A R} {state : S}
    (admits : Admits step Ok (first >>= next) state) : Admits step Ok first state ∧
      Admits step Ok (next (result step first state)) (final step first state) := by
  unfold Admits at admits
  rw [trace_bind] at admits
  exact ⟨fun entry member => admits entry (List.mem_append_left _ member),
    fun entry member => admits entry (List.mem_append_right _ member)⟩

theorem Admits.of_perform {action : A} {state : S}
    (admits : Admits step Ok (perform action) state) : Ok state action := by
  unfold Admits at admits
  rw [trace_perform] at admits
  exact admits _ (List.mem_singleton_self _)

theorem performs_pure (value : R) : Performs step Ok (pure value : Program S A R) :=
  fun _ _ member => by cases member

theorem performs_current : Performs step Ok (current : Program S A S) :=
  fun _ _ member => by cases member

theorem performs_perform {action : A} (admitted : ∀ state, Ok state action) :
    Performs step Ok (perform action) := by
  intro state entry member
  rw [trace_perform, List.mem_singleton] at member
  exact member ▸ admitted state

theorem performs_bind {first : Program S A Q} {next : Q → Program S A R}
    (firstOk : Performs step Ok first) (nextOk : ∀ value, Performs step Ok (next value)) :
    Performs step Ok (first >>= next) := by
  intro state entry member
  rw [trace_bind, List.mem_append] at member
  rcases member with member | member
  · exact firstOk state entry member
  · exact nextOk _ _ entry member

theorem performs_forM {I : Type} {items : List I} {body : I → Program S A Unit}
    (bodyOk : ∀ item ∈ items, Performs step Ok (body item)) :
    Performs step Ok (items.forM body) := by
  induction items with
  | nil => exact performs_pure ()
  | cons item items ih =>
      exact performs_bind (bodyOk item List.mem_cons_self) fun _ =>
        ih fun other member => bodyOk other (List.mem_cons_of_mem _ member)

theorem Performs.mono {Weaker : S → A → Prop} {program : Program S A R}
    (performs : Performs step Ok program)
    (weaker : ∀ state action, Ok state action → Weaker state action) :
    Performs step Weaker program :=
  fun state entry member => weaker entry.1 entry.2 (performs state entry member)

/-- The invariant rule for a program that performs only admitted actions. -/
theorem Performs.invariant {Inv : S → Prop} {program : Program S A R}
    (performs : Performs step Ok program)
    (keeps : ∀ state action, Inv state → Ok state action → Inv (step state action)) {state : S}
    (start : Inv state) : Inv (final step program state) :=
  final_invariant step keeps program start (performs state)

end Execution

end Boo.Lib.Script
