/- module: Boo/Lib/Checked
   digest: Runs that fault on a bad index or an overflow and record what they ask to allocate. -/

import Boo.Lib.LittleEndian

set_option autoImplicit false
set_option relaxedAutoImplicit false

namespace Boo.Lib.Checked

open Boo.Lib.LittleEndian

inductive Fault
  | outOfRange
  | overflow
  deriving DecidableEq, Repr

/-- An allocation of `elements` elements, each of which takes at least `width` of the `available`
input units from which they are to be read. -/
structure Request where
  elements : Nat
  available : Nat
  width : Nat
  deriving DecidableEq, Repr

/-- The elements that the input has room for. -/
def Request.room (request : Request) : Nat := request.available / request.width

def Request.Within (factor : Nat) (request : Request) : Prop :=
  request.elements ≤ factor * request.room

theorem Request.Within.mono {request : Request} (within : request.Within 1) {factor : Nat}
    (pos : 0 < factor) : request.Within factor := by
  have one : request.elements ≤ request.room := by simpa [Request.Within] using within
  exact Nat.le_trans one (Nat.le_mul_of_pos_left _ pos)

/-- What a run asked to allocate, in order, and how it ended. -/
structure Run (α : Type) where
  requests : List Request
  outcome : Except Fault α

namespace Run

variable {α β : Type}

def done (a : α) : Run α := ⟨[], .ok a⟩

def fail (fault : Fault) : Run α := ⟨[], .error fault⟩

def andThen (run : Run α) (next : α → Run β) : Run β :=
  match run.outcome with
  | .error fault => ⟨run.requests, .error fault⟩
  | .ok a => ⟨run.requests ++ (next a).requests, (next a).outcome⟩

instance : Monad Run where
  pure := done
  bind := andThen

/-- `Vec::with_capacity` and its kin. -/
def request (elements available width : Nat) : Run Unit :=
  ⟨[⟨elements, available, width⟩], .ok ()⟩

/-- The run ends without a fault, and each of its requests is as `P` says. -/
def Safe (P : Request → Prop) (run : Run α) : Prop :=
  (∃ a, run.outcome = .ok a) ∧ ∀ request ∈ run.requests, P request

/-- The run ends with `a` after requests that are as `P` says. -/
def Returns (P : Request → Prop) (run : Run α) (a : α) : Prop :=
  ∃ requests, run = ⟨requests, .ok a⟩ ∧ ∀ request ∈ requests, P request

protected theorem pure_bind (a : α) (next : α → Run β) : (pure a >>= next) = next a := rfl

theorem ok_bind {run : Run α} {next : α → Run β} {first second : List Request} {a : α} {b : β}
    (here : run = ⟨first, .ok a⟩) (after : next a = ⟨second, .ok b⟩) :
    (run >>= next) = ⟨first ++ second, .ok b⟩ := by
  rw [here]
  change Run.mk (first ++ (next a).requests) (next a).outcome = _
  rw [after]

theorem ok_map {run : Run α} {requests : List Request} {a : α} (f : α → β)
    (here : run = ⟨requests, .ok a⟩) :
    (run >>= fun a => pure (f a)) = ⟨requests, .ok (f a)⟩ := by
  rw [here]
  change Run.mk (requests ++ []) (.ok (f a)) = _
  rw [List.append_nil]

theorem request_bind {elements available width : Nat} {next : Unit → Run β}
    {requests : List Request} {b : β} (after : next () = ⟨requests, .ok b⟩) :
    (request elements available width >>= next) =
      ⟨⟨elements, available, width⟩ :: requests, .ok b⟩ :=
  ok_bind rfl after

theorem fail_bind (fault : Fault) (next : α → Run β) : (fail fault >>= next) = fail fault := rfl

theorem pure_inj {a b : α} (same : (pure a : Run α) = pure b) : a = b :=
  Except.ok.inj (congrArg Run.outcome same)

theorem fail_ne_pure {fault : Fault} {a : α} : fail fault ≠ (pure a : Run α) := by
  intro same
  have outcomes := congrArg Run.outcome same
  cases outcomes

/-- Two runs after each other return if the first does, and the second behind it. -/
theorem bind_eq_pure_iff {run : Run α} {next : α → Run β} {b : β} :
    (run >>= next) = pure b ↔ ∃ a, run = pure a ∧ next a = pure b := by
  constructor
  · intro returns
    obtain ⟨requests, outcome⟩ := run
    cases outcome with
    | error fault => cases congrArg Run.outcome returns
    | ok a =>
        have recorded : requests ++ (next a).requests = [] := congrArg Run.requests returns
        have ended : (next a).outcome = .ok b := congrArg Run.outcome returns
        obtain ⟨rfl, silent⟩ := List.append_eq_nil_iff.mp recorded
        refine ⟨a, rfl, ?_⟩
        calc next a = ⟨(next a).requests, (next a).outcome⟩ := rfl
          _ = pure b := by rw [silent, ended]; rfl
  · rintro ⟨a, rfl, returns⟩
    rw [Run.pure_bind, returns]

theorem map_eq_pure_iff {run : Run α} {f : α → β} {b : β} :
    (run >>= fun a => pure (f a)) = pure b ↔ ∃ a, run = pure a ∧ f a = b := by
  constructor
  · intro returns
    obtain ⟨a, returned, made⟩ := bind_eq_pure_iff.mp returns
    exact ⟨a, returned, pure_inj made⟩
  · rintro ⟨a, rfl, rfl⟩
    rfl

theorem map_returns_iff {run : Run α} (f : α → β) :
    (∃ b, (run >>= fun a => pure (f a)) = pure b) ↔ ∃ a, run = pure a := by
  simp only [map_eq_pure_iff, exists_comm, exists_and_left, exists_eq', and_true]

variable {P : Request → Prop}

theorem returns_pure (a : α) : Returns P (pure a : Run α) a :=
  ⟨[], rfl, fun _ member => absurd member List.not_mem_nil⟩

theorem Returns.bind {run : Run α} {next : α → Run β} {a : α} {b : β} (here : run.Returns P a)
    (after : (next a).Returns P b) : (run >>= next).Returns P b := by
  obtain ⟨first, runEq, firstOk⟩ := here
  obtain ⟨second, nextEq, secondOk⟩ := after
  refine ⟨first ++ second, ok_bind runEq nextEq, ?_⟩
  intro request member
  rcases List.mem_append.mp member with early | late
  · exact firstOk request early
  · exact secondOk request late

theorem returns_request {elements available width : Nat} (ok : P ⟨elements, available, width⟩) :
    (request elements available width).Returns P () := by
  refine ⟨_, rfl, ?_⟩
  intro request member
  rw [List.mem_singleton.mp member]
  exact ok

theorem Returns.safe {run : Run α} {a : α} (returns : run.Returns P a) : run.Safe P := by
  obtain ⟨requests, rfl, ok⟩ := returns
  exact ⟨⟨a, rfl⟩, ok⟩

theorem Returns.mono {Q : Request → Prop} {run : Run α} {a : α} (returns : run.Returns P a)
    (weaker : ∀ request, P request → Q request) : run.Returns Q a := by
  obtain ⟨requests, rfl, ok⟩ := returns
  exact ⟨requests, rfl, fun request member => weaker request (ok request member)⟩

theorem safe_ok {requests : List Request} {a : α} :
    Safe P (⟨requests, .ok a⟩ : Run α) ↔ ∀ request ∈ requests, P request := by
  constructor
  · intro safe
    exact safe.2
  · intro ok
    exact ⟨⟨a, rfl⟩, ok⟩

/-- What becomes of the result is of no concern. -/
theorem safe_map {run : Run α} (f : α → β) :
    (run >>= fun a => pure (f a)).Safe P ↔ run.Safe P := by
  obtain ⟨requests, outcome⟩ := run
  cases outcome with
  | error fault =>
    constructor
    · rintro ⟨⟨b, ended⟩, -⟩
      cases ended
    · rintro ⟨⟨a, ended⟩, -⟩
      cases ended
  | ok a => rw [ok_map f rfl, safe_ok, safe_ok]

end Run

section Primitives

variable {α : Type}

/-- One more than the largest `usize` of a 64-bit target, and than the largest `u64`. -/
def wordLimit : Nat := 2 ^ 64

def word (n : Nat) : Run Nat := if n < wordLimit then pure n else Run.fail .overflow

def add (a b : Nat) : Run Nat := word (a + b)

def mul (a b : Nat) : Run Nat := word (a * b)

def sub (a b : Nat) : Run Nat := if b ≤ a then pure (a - b) else Run.fail .overflow

/-- `data[i]`. -/
def index (data : List α) (i : Nat) : Run α :=
  match data[i]? with
  | some a => pure a
  | none => Run.fail .outOfRange

/-- `data[i] = a`. -/
def store (data : List α) (i : Nat) (a : α) : Run (List α) :=
  if i < data.length then pure (data.set i a) else Run.fail .outOfRange

/-- `data[start..stop]`. -/
def range (data : List α) (start stop : Nat) : Run (List α) :=
  if start ≤ stop ∧ stop ≤ data.length then pure (slice data start (stop - start))
  else Run.fail .outOfRange

/-- `data.rotate_left(k)`. -/
def rotateLeft (data : List α) (k : Nat) : Run (List α) :=
  if k ≤ data.length then pure (data.drop k ++ data.take k) else Run.fail .outOfRange

/-- `data.rotate_right(k)`. -/
def rotateRight (data : List α) (k : Nat) : Run (List α) :=
  if k ≤ data.length then
    pure (data.drop (data.length - k) ++ data.take (data.length - k))
  else Run.fail .outOfRange

/-- `[data[offset], data[offset + 1], ..]`, `n` elements. -/
def elementsAt (data : List α) (offset : Nat) : Nat → Run (List α)
  | 0 => pure []
  | n + 1 => do
      let front ← elementsAt data offset n
      let last ← add offset n
      let a ← index data last
      pure (front ++ [a])

theorem word_of_lt {n : Nat} (small : n < wordLimit) : word n = pure n := if_pos small

theorem add_of_lt {a b : Nat} (small : a + b < wordLimit) : add a b = pure (a + b) :=
  word_of_lt small

theorem mul_of_lt {a b : Nat} (small : a * b < wordLimit) : mul a b = pure (a * b) :=
  word_of_lt small

theorem sub_of_le {a b : Nat} (le : b ≤ a) : sub a b = pure (a - b) := if_pos le

theorem index_of_lt {data : List α} {i : Nat} (inside : i < data.length) :
    index data i = pure data[i] := by
  rw [index, List.getElem?_eq_getElem inside]

theorem index_of_some {data : List α} {i : Nat} {a : α} (found : data[i]? = some a) :
    index data i = pure a := by
  rw [index, found]

theorem store_of_lt {data : List α} {i : Nat} (a : α) (inside : i < data.length) :
    store data i a = pure (data.set i a) := if_pos inside

theorem range_of_le {data : List α} {start stop : Nat} (ordered : start ≤ stop)
    (inside : stop ≤ data.length) : range data start stop = pure (slice data start (stop - start)) :=
  if_pos ⟨ordered, inside⟩

theorem elementsAt_of_le {data : List α} (addressable : data.length < wordLimit) {offset n : Nat}
    (inside : offset + n ≤ data.length) : elementsAt data offset n = pure (slice data offset n) := by
  induction n with
  | zero => rfl
  | succ n ih =>
    have here : offset + n < data.length := by omega
    have front := ih (by omega)
    have last := add_of_lt (a := offset) (b := n) (by omega)
    have slices : slice data offset (n + 1) = slice data offset n ++ [data[offset + n]] := by
      rw [slice, List.take_add_one, List.getElem?_drop, List.getElem?_eq_getElem here, slice]
      rfl
    rw [elementsAt, front, Run.pure_bind, last, Run.pure_bind, index_of_lt here, Run.pure_bind,
      slices]

end Primitives

end Boo.Lib.Checked
