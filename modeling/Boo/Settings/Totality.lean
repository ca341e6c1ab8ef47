/- module: Boo/Settings/Totality
   digest: Which texts the configuration parser gets through, and how far one line reaches. -/

import Boo.Settings.Parsing

set_option autoImplicit false
set_option relaxedAutoImplicit false

namespace Boo.Settings.Totality

open Boo.Lib.ByteOffsets
open Boo.Lib.Checked
open Boo.Lib.TextLines
open Boo.Settings.Durations
open Boo.Settings.Parsing

variable {F : Type}

section Statement

/-- The configuration but for one field. -/
def clear (field : ValueField) (config : Config F) : Config F :=
  match field with
  | .color field => config.setColor none field
  | .palette index => config.setPalette index none
  | .duration field => config.setDuration (some 0) field

/-- The text is parsed without a fault, and a line for a color, a palette entry or a duration
leaves every other field as the remaining lines make it, whatever its value. -/
def Robust (f32 : Floats F) (content : Text) : Prop :=
  ∃ config, Config.parse f32 content = pure config ∧
    ∀ before line after field value, lines content = before ++ line :: after →
      lineSetting line = some (.value field, value) →
      ∃ other, Config.default.parseLines f32 (before ++ after) = pure other ∧
        clear field config = clear field other

/-- The bytes behind the hash sign, when there are six, can be cut after the second, and after the
fourth if the first two are read as a number. -/
def SafeColor (value : Text) : Prop :=
  ∀ hex ∈ stripPrefix ['#'] (trim value), byteLength hex = 6 →
    IsCharBoundary hex 2 ∧
      ∀ cut ∈ splitAtByte hex 2, (parseHexByte cut.1).isSome → IsCharBoundary hex 4

def TakesColor : ConfigKey → Prop
  | .value (.color _) => True
  | .value (.palette _) => True
  | _ => False

def SafeLine (line : Text) : Prop :=
  ∀ setting ∈ lineSetting line, TakesColor setting.1 → SafeColor setting.2

end Statement

section Colors

theorem colorPart_of_boundaries {hex : Text} {start : Nat} (first : IsCharBoundary hex start)
    (last : IsCharBoundary hex (start + 2)) : ∃ part, colorPart hex start = pure part := by
  rcases sliceText_cases hex (Nat.le_add_right start 2) with ⟨-, -, digits, cut⟩ | ⟨neither, -⟩
  · exact ⟨parseHexByte digits, by rw [colorPart, cut, Run.pure_bind]⟩
  · exact absurd ⟨first, last⟩ neither

theorem isCharBoundary_of_colorPart {hex : Text} {start : Nat} {part : Option UInt8}
    (returns : colorPart hex start = pure part) : IsCharBoundary hex (start + 2) := by
  rcases sliceText_cases hex (Nat.le_add_right start 2) with ⟨-, last, -⟩ | ⟨-, faults⟩
  · exact last
  · rw [colorPart, faults, Run.fail_bind] at returns
    exact absurd returns Run.fail_ne_pure

/-- The first two bytes are in front of the first cut. -/
theorem colorPart_zero {hex red rest : Text} (cut : splitAtByte hex 2 = some (red, rest)) :
    colorPart hex 0 = pure (parseHexByte red) := by
  have digits : sliceText hex 0 (0 + 2) = pure red := by
    simp [sliceText, splitAtByte_zero, cut]
  rw [colorPart, digits, Run.pure_bind]

theorem isCharBoundary_byteLength (text : Text) : IsCharBoundary text (byteLength text) :=
  isCharBoundary_iff.mpr ⟨text, [], by simp, rfl⟩

/-- A color is read, or found to be none, exactly where the cuts in it do not fault. -/
theorem parseRgbColor_returns_iff (value : Text) :
    (∃ color, parseRgbColor value = pure color) ↔ SafeColor value := by
  rw [parseRgbColor, SafeColor]
  cases stripPrefix ['#'] (trim value) with
  | none => simp
  | some hex =>
      by_cases six : byteLength hex = 6
      · simp only [ne_eq, six, not_true_eq_false, if_false, Option.mem_some_iff, forall_eq']
        cases cut : splitAtByte hex 2 with
        | none =>
            have inside : ¬ IsCharBoundary hex 2 := by simp [IsCharBoundary, cut]
            constructor
            · rintro ⟨color, returns⟩
              obtain ⟨part, read, -⟩ := Run.bind_eq_pure_iff.mp returns
              exact absurd (isCharBoundary_of_colorPart read) inside
            · intro safe
              exact absurd (safe trivial).1 inside
        | some parts =>
            obtain ⟨red, rest⟩ := parts
            have second : IsCharBoundary hex 2 := by rw [IsCharBoundary, cut]; rfl
            have sixth : IsCharBoundary hex 6 := six ▸ isCharBoundary_byteLength hex
            simp only [colorPart_zero cut, Run.pure_bind, Option.mem_some_iff, forall_eq', second,
              true_and]
            cases parseHexByte red with
            | none => simp
            | some redByte =>
                simp only [Option.isSome_some, forall_const]
                constructor
                · rintro ⟨color, returns⟩
                  obtain ⟨part, read, -⟩ := Run.bind_eq_pure_iff.mp returns
                  exact isCharBoundary_of_colorPart read
                · intro fourth
                  obtain ⟨green, readGreen⟩ := colorPart_of_boundaries second fourth
                  obtain ⟨blue, readBlue⟩ := colorPart_of_boundaries fourth sixth
                  rw [readGreen, Run.pure_bind]
                  cases green with
                  | none => exact ⟨none, rfl⟩
                  | some greenByte =>
                      simp only [readBlue, Run.pure_bind]
                      cases blue with
                      | none => exact ⟨none, rfl⟩
                      | some blueByte => exact ⟨some (redByte, greenByte, blueByte), rfl⟩
      · simp [six]

end Colors

section Isolation

variable {f32 : Floats F}

theorem clear_setColor (config : Config F) (color : Option RgbColor) (own : ColorField)
    (field : ValueField) :
    clear field (config.setColor color own) =
      clear field ((clear field config).setColor color own) := by
  cases field with
  | color field => cases own <;> cases field <;> rfl
  | palette index => cases own <;> simp [clear, Config.setPalette, Config.setColor]
  | duration field => cases own <;> cases field <;> rfl

theorem clear_setPalette (config : Config F) (color : Option RgbColor) (own : Fin 16)
    (field : ValueField) :
    clear field (config.setPalette own color) =
      clear field ((clear field config).setPalette own color) := by
  cases field with
  | color field => cases field <;> rfl
  | palette index =>
      by_cases same : own = index
      · simp [clear, Config.setPalette, same]
      · simp [clear, Config.setPalette, Function.update_comm same]
  | duration field => cases field <;> rfl

theorem clear_setDuration (config : Config F) (duration : Option Nat) (own : DurationField)
    (field : ValueField) :
    clear field (config.setDuration duration own) =
      clear field ((clear field config).setDuration duration own) := by
  cases field with
  | color field => cases own <;> cases field <;> rfl
  | palette index => cases own <;> simp [clear, Config.setPalette, Config.setDuration]
  | duration field => cases own <;> cases field <;> rfl

/-- A value that is set in one field does not depend on another one. -/
theorem valueChange_clear {own : ValueField} {value : Text} {change : Config F → Config F}
    (changes : own.change value = pure change) (config : Config F) (field : ValueField) :
    clear field (change config) = clear field (change (clear field config)) := by
  cases own with
  | color own =>
      obtain ⟨color, -, rfl⟩ := Run.map_eq_pure_iff.mp changes
      exact clear_setColor config color own field
  | palette index =>
      obtain ⟨color, -, rfl⟩ := Run.map_eq_pure_iff.mp changes
      exact clear_setPalette config color index field
  | duration own =>
      obtain ⟨duration, -, rfl⟩ := Run.map_eq_pure_iff.mp changes
      exact clear_setDuration config duration own field

/-- No line reads a color, a palette entry or a duration but to change it. -/
theorem change_clear {key : ConfigKey} {value : Text} {change : Config F → Config F}
    (changes : key.change f32 value = pure change) (config : Config F) (field : ValueField) :
    clear field (change config) = clear field (change (clear field config)) := by
  cases key with
  | value own => exact valueChange_clear changes config field
  | keybind =>
      obtain rfl := Run.pure_inj changes
      cases splitOnce '=' value <;> cases field with
      | color field => cases field <;> rfl
      | palette index => simp [clear, Config.setPalette]
      | duration field => cases field <;> rfl
  | _ =>
      obtain rfl := Run.pure_inj changes
      cases field with
      | color field => cases field <;> rfl
      | palette index => simp [clear, Config.setPalette]
      | duration field => cases field <;> rfl

/-- A value changes nothing but its own field. -/
theorem valueChange_own {own : ValueField} {value : Text} {change : Config F → Config F}
    (changes : own.change value = pure change) (config : Config F) :
    clear own (change config) = clear own config := by
  cases own with
  | color own =>
      obtain ⟨color, -, rfl⟩ := Run.map_eq_pure_iff.mp changes
      cases own <;> rfl
  | palette index =>
      obtain ⟨color, -, rfl⟩ := Run.map_eq_pure_iff.mp changes
      simp [clear, Config.setPalette]
  | duration own =>
      obtain ⟨duration, -, rfl⟩ := Run.map_eq_pure_iff.mp changes
      cases own <;> rfl

end Isolation

section Lines

variable {f32 : Floats F}

theorem change_returns_iff (key : ConfigKey) (value : Text) :
    (∃ change, key.change f32 value = pure change) ↔ (TakesColor key → SafeColor value) := by
  cases key with
  | value own =>
      cases own with
      | color own =>
          simp only [TakesColor, true_imp_iff, ← parseRgbColor_returns_iff]
          exact Run.map_returns_iff _
      | palette index =>
          simp only [TakesColor, true_imp_iff, ← parseRgbColor_returns_iff]
          exact Run.map_returns_iff _
      | duration own =>
          obtain ⟨result, read, -⟩ := parseDurationFrom_sound value.length
            (List.nil_append value).symm le_rfl 0
          simp only [TakesColor, false_imp_iff, iff_true]
          exact (Run.map_returns_iff _).mpr ⟨result, read⟩
  | _ => exact iff_of_true ⟨_, rfl⟩ (fun takes => takes.elim)

theorem parseLine_of_none {line : Text} (nothing : lineSetting line = none) (config : Config F) :
    config.parseLine f32 line = pure config := by
  rw [Config.parseLine, nothing]

theorem parseLine_eq_pure_iff {line value : Text} {key : ConfigKey}
    (setting : lineSetting line = some (key, value)) {config next : Config F} :
    config.parseLine f32 line = pure next ↔
      ∃ change, key.change f32 value = pure change ∧ change config = next := by
  rw [Config.parseLine, setting]
  exact Run.map_eq_pure_iff

theorem parseLine_returns_iff (line : Text) (config : Config F) :
    (∃ next, config.parseLine f32 line = pure next) ↔ SafeLine line := by
  cases setting : lineSetting line with
  | none =>
      refine iff_of_true ⟨config, parseLine_of_none setting config⟩ ?_
      intro other member
      rw [setting] at member
      cases member
  | some found =>
      obtain ⟨key, value⟩ := found
      have safe : SafeLine line ↔ (TakesColor key → SafeColor value) := by
        rw [SafeLine, setting]
        simp
      rw [safe, ← @change_returns_iff F f32]
      constructor
      · rintro ⟨next, returns⟩
        obtain ⟨change, changes, -⟩ := (parseLine_eq_pure_iff setting).mp returns
        exact ⟨change, changes⟩
      · rintro ⟨change, changes⟩
        exact ⟨change config, (parseLine_eq_pure_iff setting).mpr ⟨change, changes, rfl⟩⟩

/-- A line does the same to the other fields, whatever the cleared one holds. -/
theorem parseLine_clear {line : Text} {config other next : Config F} {field : ValueField}
    (returns : config.parseLine f32 line = pure next)
    (same : clear field config = clear field other) :
    ∃ otherNext, other.parseLine f32 line = pure otherNext ∧
      clear field next = clear field otherNext := by
  cases setting : lineSetting line with
  | none =>
      rw [parseLine_of_none setting] at returns
      obtain rfl := Run.pure_inj returns
      exact ⟨other, parseLine_of_none setting other, same⟩
  | some found =>
      obtain ⟨change, changes, rfl⟩ := (parseLine_eq_pure_iff setting).mp returns
      refine ⟨change other, (parseLine_eq_pure_iff setting).mpr ⟨change, changes, rfl⟩, ?_⟩
      rw [change_clear changes config, same, ← change_clear changes other]

theorem parseLine_own {line value : Text} {config next : Config F} {field : ValueField}
    (setting : lineSetting line = some (.value field, value))
    (returns : config.parseLine f32 line = pure next) : clear field next = clear field config := by
  obtain ⟨change, changes, rfl⟩ := (parseLine_eq_pure_iff setting).mp returns
  exact valueChange_own changes config

end Lines

section Texts

variable {f32 : Floats F}

theorem parseLines_cons_eq_pure_iff {line : Text} {rest : List Text} {config last : Config F} :
    config.parseLines f32 (line :: rest) = pure last ↔
      ∃ next, config.parseLine f32 line = pure next ∧ next.parseLines f32 rest = pure last :=
  Run.bind_eq_pure_iff

theorem parseLines_returns_iff (lines : List Text) (config : Config F) :
    (∃ last, config.parseLines f32 lines = pure last) ↔ ∀ line ∈ lines, SafeLine line := by
  induction lines generalizing config with
  | nil => exact iff_of_true ⟨config, rfl⟩ (by simp)
  | cons line rest ih =>
      rw [List.forall_mem_cons, ← @parseLine_returns_iff F f32 line config]
      constructor
      · rintro ⟨last, returns⟩
        obtain ⟨next, first, others⟩ := parseLines_cons_eq_pure_iff.mp returns
        exact ⟨⟨next, first⟩, (ih next).mp ⟨last, others⟩⟩
      · rintro ⟨⟨next, first⟩, safe⟩
        obtain ⟨last, others⟩ := (ih next).mpr safe
        exact ⟨last, parseLines_cons_eq_pure_iff.mpr ⟨next, first, others⟩⟩

theorem parseLines_clear {lines : List Text} {config other last : Config F} {field : ValueField}
    (returns : config.parseLines f32 lines = pure last)
    (same : clear field config = clear field other) :
    ∃ otherLast, other.parseLines f32 lines = pure otherLast ∧
      clear field last = clear field otherLast := by
  induction lines generalizing config other with
  | nil =>
      obtain rfl := Run.pure_inj returns
      exact ⟨other, rfl, same⟩
  | cons line rest ih =>
      obtain ⟨next, first, others⟩ := parseLines_cons_eq_pure_iff.mp returns
      obtain ⟨otherNext, otherFirst, sameNext⟩ := parseLine_clear first same
      obtain ⟨otherLast, otherOthers, sameLast⟩ := ih others sameNext
      exact ⟨otherLast, parseLines_cons_eq_pure_iff.mpr ⟨otherNext, otherFirst, otherOthers⟩,
        sameLast⟩

/-- The other fields are as if the line had not been there: the induction is on the lines in front
of it, and from the line on the two runs differ in its own field only. -/
theorem parseLines_without {before after : List Text} {line value : Text} {field : ValueField}
    {config last : Config F} (setting : lineSetting line = some (.value field, value))
    (returns : config.parseLines f32 (before ++ line :: after) = pure last) :
    ∃ other, config.parseLines f32 (before ++ after) = pure other ∧
      clear field last = clear field other := by
  induction before generalizing config with
  | nil =>
      obtain ⟨next, first, others⟩ := parseLines_cons_eq_pure_iff.mp returns
      exact parseLines_clear others (parseLine_own setting first)
  | cons front before ih =>
      obtain ⟨next, first, others⟩ := parseLines_cons_eq_pure_iff.mp returns
      obtain ⟨other, without, same⟩ := ih others
      exact ⟨other, parseLines_cons_eq_pure_iff.mpr ⟨next, first, without⟩, same⟩

/-- The parser gets through a text, and a line reaches its own field only, exactly when no color
in the text is of six bytes that cannot be cut in pairs. -/
theorem robust_iff (f32 : Floats F) (content : Text) :
    Robust f32 content ↔ ∀ line ∈ lines content, SafeLine line := by
  rw [← @parseLines_returns_iff F f32 (lines content) Config.default]
  constructor
  · rintro ⟨config, returns, -⟩
    exact ⟨config, returns⟩
  · rintro ⟨config, returns⟩
    refine ⟨config, returns, ?_⟩
    intro before line after field value cut setting
    refine parseLines_without setting ?_
    rw [← cut]
    exact returns

/-- The second cut falls into the euro sign. -/
theorem not_robust_euro : ¬ Robust rationals "foreground = #a€bc".toList := by
  rintro ⟨config, returns, -⟩
  have safe : SafeLine "foreground = #a€bc".toList :=
    (parseLines_returns_iff _ _).mp ⟨config, returns⟩ _ (by decide)
  have setting : lineSetting "foreground = #a€bc".toList =
      some (.value (.color .foreground), "#a€bc".toList) := rfl
  have color : SafeColor "#a€bc".toList := safe _ setting trivial
  have boundary : IsCharBoundary "a€bc".toList 2 := (color "a€bc".toList (by decide) (by decide)).1
  exact absurd boundary (by decide)

end Texts

end Boo.Settings.Totality
