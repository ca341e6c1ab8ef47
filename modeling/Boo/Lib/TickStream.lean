/- module: Boo/Lib/TickStream
   digest: Exact-length reads from a stream of data interleaved with idle ticks. -/

import Mathlib.Data.List.Basic

set_option autoImplicit false
set_option relaxedAutoImplicit false

namespace Boo.Lib.TickStream

variable {α ι : Type}

/-- One unit of a non-blocking source: a datum, or a report that none was ready. -/
inductive Tick (α ι : Type)
  | data (x : α)
  | idle (kind : ι)

def dataOf : List (Tick α ι) → List α
  | [] => []
  | .data x :: ticks => x :: dataOf ticks
  | .idle _ :: ticks => dataOf ticks

@[simp] theorem dataOf_append (xs ys : List (Tick α ι)) :
    dataOf (xs ++ ys) = dataOf xs ++ dataOf ys := by
  induction xs with
  | nil => rfl
  | cons tick xs ih => cases tick <;> simp [dataOf, ih]

@[simp] theorem dataOf_map_idle (kinds : List ι) :
    dataOf (kinds.map (Tick.idle : ι → Tick α ι)) = [] := by
  induction kinds with
  | nil => rfl
  | cons kind kinds ih => simp [dataOf, ih]

inductive TakeResult (α ι : Type)
  | done (xs : List α)
  | eof
  | idle (kind : ι)

/-- Collect `need` more data. An idle tick before the first datum, or more than `maxIdle`
of them in a row after it, gives up; a datum resets the count. -/
def takeExact (maxIdle : Nat) : Nat → List α → Nat → List (Tick α ι) →
    TakeResult α ι × List (Tick α ι)
  | 0, got, _, ticks => (.done got, ticks)
  | _ + 1, _, _, [] => (.eof, [])
  | need + 1, got, _, .data x :: ticks => takeExact maxIdle need (got ++ [x]) 0 ticks
  | need + 1, got, idles, .idle kind :: ticks =>
      if got.isEmpty then (.idle kind, ticks)
      else if maxIdle < idles + 1 then (.idle kind, ticks)
      else takeExact maxIdle (need + 1) got (idles + 1) ticks

theorem takeExact_data (maxIdle need idles : Nat) (got xs : List α) (ticks : List (Tick α ι))
    (short : xs.length ≤ need) (nonempty : xs ≠ []) :
    takeExact maxIdle need got idles (xs.map Tick.data ++ ticks) =
      takeExact maxIdle (need - xs.length) (got ++ xs) 0 ticks := by
  induction xs generalizing need got idles with
  | nil => exact absurd rfl nonempty
  | cons x xs ih =>
      cases need with
      | zero => simp at short
      | succ need =>
          rw [List.length_cons] at short
          rw [List.map_cons, List.cons_append, takeExact]
          cases xs with
          | nil => simp
          | cons y ys =>
              rw [ih need 0 (got ++ [x]) (by omega) (List.cons_ne_nil y ys)]
              simp

/-- A completed read returns exactly the next data; an abandoned one loses what it had. -/
theorem takeExact_conserves {maxIdle need idles : Nat} {got : List α}
    {ticks rest : List (Tick α ι)} {result : TakeResult α ι}
    (h : takeExact maxIdle need got idles ticks = (result, rest)) :
    (∀ xs, result = .done xs → xs.length = got.length + need ∧
      got ++ dataOf ticks = xs ++ dataOf rest) ∧
      (dataOf rest).length ≤ (dataOf ticks).length := by
  fun_induction takeExact maxIdle need got idles ticks with
  | case1 =>
      cases h
      refine ⟨?_, Nat.le_refl _⟩
      rintro xs ⟨⟩
      exact ⟨rfl, rfl⟩
  | case2 =>
      cases h
      exact ⟨nofun, Nat.le_refl _⟩
  | case3 need got idles x ticks ih =>
      obtain ⟨done, shorter⟩ := ih h
      refine ⟨?_, ?_⟩
      · intro xs hxs
        obtain ⟨len, same⟩ := done xs hxs
        rw [List.length_append, List.length_singleton] at len
        exact ⟨by omega, by simpa [dataOf] using same⟩
      · simp only [dataOf, List.length_cons]
        omega
  | case4 =>
      cases h
      exact ⟨nofun, Nat.le_refl _⟩
  | case5 =>
      cases h
      exact ⟨nofun, Nat.le_refl _⟩
  | case6 need got idles kind ticks _ _ ih =>
      exact ih h

/-- The next `need` data come without a pause of more than `maxIdle` ticks, `idles` of
which have passed already. -/
def Patient (maxIdle : Nat) : Nat → Nat → List (Tick α ι) → Prop
  | 0, _, _ => True
  | _ + 1, _, [] => True
  | need + 1, _, .data _ :: ticks => Patient maxIdle need 0 ticks
  | need + 1, idles, .idle _ :: ticks =>
      idles + 1 ≤ maxIdle ∧ Patient maxIdle (need + 1) (idles + 1) ticks

/-- Every idle tick of `part` comes before its `need`-th datum. -/
def EndsWithData (need : Nat) (part : List (Tick α ι)) : Prop :=
  ∀ before kind after, part = before ++ .idle kind :: after → (dataOf before).length < need

theorem endsWithData_cons_data {need : Nat} {x : α} {part : List (Tick α ι)}
    (h : EndsWithData need part) : EndsWithData (need + 1) (.data x :: part) := by
  intro before kind after split
  cases before with
  | nil => cases split
  | cons tick before =>
      obtain ⟨rfl, tail⟩ := List.cons.inj split
      have inner := h before kind after tail
      simp only [dataOf, List.length_cons]
      omega

theorem endsWithData_cons_idle {need : Nat} {kind : ι} {part : List (Tick α ι)}
    (pos : 0 < need) (h : EndsWithData need part) :
    EndsWithData need (.idle kind :: part) := by
  intro before other after split
  cases before with
  | nil => exact pos
  | cons tick before =>
      obtain ⟨rfl, tail⟩ := List.cons.inj split
      exact h before other after tail

/-- Once begun, a patient read completes and consumes up to its last datum. -/
theorem takeExact_patient {maxIdle need idles : Nat} {got : List α} {ticks : List (Tick α ι)}
    (patient : Patient maxIdle need idles ticks) (begun : got ≠ [])
    (enough : need ≤ (dataOf ticks).length) :
    ∃ consumed rest, ticks = consumed ++ rest ∧
      dataOf consumed = (dataOf ticks).take need ∧ EndsWithData need consumed ∧
      takeExact maxIdle need got idles ticks =
        (.done (got ++ (dataOf ticks).take need), rest) := by
  induction ticks generalizing need idles got with
  | nil =>
      have none : need = 0 := by simpa [dataOf] using enough
      subst none
      refine ⟨[], [], rfl, rfl, ?_, by simp [takeExact]⟩
      intro before kind after split
      simp at split
  | cons tick ticks ih =>
      cases need with
      | zero =>
          refine ⟨[], tick :: ticks, rfl, by simp [dataOf], ?_, by simp [takeExact]⟩
          intro before kind after split
          simp at split
      | succ need =>
          cases tick with
          | data x =>
              simp only [dataOf, List.length_cons] at enough
              have begun' : got ++ [x] ≠ [] := by simp
              obtain ⟨consumed, rest, split, taken, ends, run⟩ :=
                ih patient begun' (by omega)
              refine ⟨.data x :: consumed, rest, by rw [split]; rfl, ?_,
                endsWithData_cons_data ends, ?_⟩
              · simp [dataOf, taken]
              · rw [takeExact, run]
                simp [dataOf]
          | idle kind =>
              obtain ⟨few, later⟩ := patient
              have some : ¬ got.isEmpty := by simpa using begun
              have allowed : ¬ maxIdle < idles + 1 := by omega
              obtain ⟨consumed, rest, split, taken, ends, run⟩ := ih later begun enough
              refine ⟨.idle kind :: consumed, rest, by rw [split]; rfl, taken,
                endsWithData_cons_idle (Nat.succ_pos need) ends, ?_⟩
              rw [takeExact, if_neg some, if_neg allowed, run]
              rfl

section Positions

/-- No idle tick stands at a data offset in `bad`; the first datum has offset `base`. -/
def IdlesAvoid (base : Nat) (bad : List Nat) (ticks : List (Tick α ι)) : Prop :=
  ∀ before kind after, ticks = before ++ .idle kind :: after →
    base + (dataOf before).length ∉ bad

/-- A pause of more than `maxIdle` ticks occurs only at a data offset in `allowed`. -/
def LongPausesAt (maxIdle base : Nat) (allowed : List Nat) (ticks : List (Tick α ι)) : Prop :=
  ∀ before (kinds : List ι) after, ticks = before ++ (kinds.map Tick.idle ++ after) →
    maxIdle < kinds.length → base + (dataOf before).length ∈ allowed

theorem LongPausesAt.drop {maxIdle base : Nat} {allowed : List Nat}
    {part ticks : List (Tick α ι)} (h : LongPausesAt maxIdle base allowed (part ++ ticks)) :
    LongPausesAt maxIdle (base + (dataOf part).length) allowed ticks := by
  intro before kinds after split long
  have whole := h (part ++ before) kinds after (by rw [split, List.append_assoc]) long
  rw [dataOf_append, List.length_append, ← Nat.add_assoc] at whole
  exact whole

theorem LongPausesAt.tail {maxIdle base : Nat} {allowed : List Nat} {x : α}
    {ticks : List (Tick α ι)} (h : LongPausesAt maxIdle base allowed (.data x :: ticks)) :
    LongPausesAt maxIdle (base + 1) allowed ticks := by
  have split : LongPausesAt maxIdle base allowed ([.data x] ++ ticks) := h
  exact split.drop

theorem IdlesAvoid.append_iff {base : Nat} {bad : List Nat} {part ticks : List (Tick α ι)} :
    IdlesAvoid base bad (part ++ ticks) ↔
      IdlesAvoid base bad part ∧ IdlesAvoid (base + (dataOf part).length) bad ticks := by
  constructor
  · intro h
    constructor
    · intro before kind after split
      exact h before kind (after ++ ticks) (by simp [split])
    · intro before kind after split
      have whole := h (part ++ before) kind after (by rw [split, List.append_assoc])
      rw [dataOf_append, List.length_append, ← Nat.add_assoc] at whole
      exact whole
  · rintro ⟨first, second⟩ before kind after split
    rcases List.append_eq_append_iff.mp split with ⟨middle, rfl, rest⟩ | ⟨middle, whole, rest⟩
    · have here := second middle kind after rest
      rw [dataOf_append, List.length_append, ← Nat.add_assoc]
      exact here
    · cases middle with
      | nil =>
          have here := second [] kind after rest.symm
          rw [List.append_nil] at whole
          simpa [← whole, dataOf] using here
      | cons tick middle =>
          obtain ⟨rfl, -⟩ := List.cons.inj rest
          exact first before kind middle whole

theorem idlesAvoid_nil (base : Nat) (bad : List Nat) :
    IdlesAvoid base bad ([] : List (Tick α ι)) := by
  intro before kind after split
  simp at split

@[simp] theorem idlesAvoid_cons_data {base : Nat} {bad : List Nat} {x : α}
    {ticks : List (Tick α ι)} :
    IdlesAvoid base bad (.data x :: ticks) ↔ IdlesAvoid (base + 1) bad ticks := by
  have split : IdlesAvoid base bad (.data x :: ticks) ↔
      IdlesAvoid base bad [.data x] ∧ IdlesAvoid (base + 1) bad ticks :=
    @IdlesAvoid.append_iff α ι base bad [.data x] ticks
  refine split.trans (and_iff_right ?_)
  intro before kind after found
  have member : Tick.idle kind ∈ [Tick.data x] := by
    rw [found]
    simp
  simp at member

@[simp] theorem idlesAvoid_cons_idle {base : Nat} {bad : List Nat} {kind : ι}
    {ticks : List (Tick α ι)} :
    IdlesAvoid base bad (.idle kind :: ticks) ↔ base ∉ bad ∧ IdlesAvoid base bad ticks := by
  have split : IdlesAvoid base bad (.idle kind :: ticks) ↔
      IdlesAvoid base bad [.idle kind] ∧ IdlesAvoid base bad ticks :=
    @IdlesAvoid.append_iff α ι base bad [.idle kind] ticks
  refine split.trans (and_congr_left fun _ => ⟨fun h => h [] kind [] rfl, ?_⟩)
  intro avoided before other after found
  cases before with
  | nil => exact avoided
  | cons tick before =>
      have tail := (List.cons.inj found).2
      simp at tail

theorem longPausesAt_of_length_le {maxIdle base : Nat} {allowed : List Nat}
    {ticks : List (Tick α ι)} (short : ticks.length ≤ maxIdle) :
    LongPausesAt maxIdle base allowed ticks := by
  intro before kinds after split long
  have total := congrArg List.length split
  simp only [List.length_append, List.length_map] at total
  omega

theorem idlesAvoid_congr {base : Nat} {bad bad' : List Nat} {ticks : List (Tick α ι)}
    (same : ∀ offset, base ≤ offset → offset ≤ base + (dataOf ticks).length →
      (offset ∈ bad ↔ offset ∈ bad')) :
    IdlesAvoid base bad ticks ↔ IdlesAvoid base bad' ticks := by
  have bound : ∀ before kind after, ticks = before ++ Tick.idle kind :: after →
      (dataOf before).length ≤ (dataOf ticks).length := by
    intro before kind after split
    rw [split, dataOf_append, List.length_append]
    omega
  constructor
  · intro h before kind after split inBad
    have inside := bound before kind after split
    exact h before kind after split ((same _ (by omega) (by omega)).mpr inBad)
  · intro h before kind after split inBad
    have inside := bound before kind after split
    exact h before kind after split ((same _ (by omega) (by omega)).mp inBad)

/-- Where no offset of the next `need` data allows a long pause, the read is patient. -/
theorem patient_of_longPausesAt {maxIdle need base : Nat} {allowed : List Nat} (passed : List ι)
    {ticks : List (Tick α ι)}
    (pauses : LongPausesAt maxIdle base allowed (passed.map Tick.idle ++ ticks))
    (few : passed.length ≤ maxIdle) (inside : ∀ j, j < need → base + j ∉ allowed) :
    Patient maxIdle need passed.length ticks := by
  induction ticks generalizing need base passed with
  | nil => cases need <;> trivial
  | cons tick ticks ih =>
      cases need with
      | zero => trivial
      | succ need =>
          cases tick with
          | data x =>
              have later : LongPausesAt maxIdle (base + 1) allowed ticks := by
                have dropped := pauses.drop
                rw [dataOf_map_idle] at dropped
                exact dropped.tail
              refine ih [] later (Nat.zero_le _) ?_
              intro j hj
              have there := inside (j + 1) (by omega)
              have offset : base + 1 + j = base + (j + 1) := by omega
              rwa [offset]
          | idle kind =>
              have shape : passed.map Tick.idle ++ Tick.idle kind :: ticks =
                  (passed ++ [kind]).map Tick.idle ++ ticks := by simp
              rw [shape] at pauses
              have fits : (passed ++ [kind]).length ≤ maxIdle := by
                by_contra long
                have start := pauses [] (passed ++ [kind]) ticks rfl (Nat.lt_of_not_le long)
                exact inside 0 (Nat.succ_pos need) (by simpa [dataOf] using start)
              have next := ih (passed ++ [kind]) pauses fits inside
              rw [List.length_append, List.length_singleton] at fits next
              exact ⟨fits, next⟩

end Positions

end Boo.Lib.TickStream
