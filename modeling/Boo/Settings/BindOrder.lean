/- module: Boo/Settings/BindOrder
   digest: When the order in which a map gives its entries does not show in the key bindings. -/

import Boo.Settings.Keybinds

set_option autoImplicit false
set_option relaxedAutoImplicit false

namespace Boo.Settings.BindOrder

open Boo.Lib.Checked
open Boo.Lib.Tables
open Boo.Lib.TextLines
open Boo.Runtime.CopyModeAgreement
open Boo.Runtime.KeyBindings
open Boo.Runtime.Keys
open Boo.Settings.Keybinds
open Boo.Settings.Parsing

section Statement

variable {F : Type}

/-- The same prefix key, and tables that give the same answers. -/
structure SameBindings (first second : Bindings BindingAction) : Prop where
  prefixKey : first.prefixKey = second.prefixKey
  table : ∀ char, first.table.lookup char = second.table.lookup char
  direct : ∀ key, first.direct.lookup key = second.direct.lookup key

def OrderIndependent (platform : Platform) (config : Config F) : Prop :=
  ∀ first second : List (Text × Text), first.Perm config.keybinds.entries →
    second.Perm config.keybinds.entries →
    SameBindings (bindingsOf platform config first) (bindingsOf platform config second)

/-- The prefix key of the key "prefix-key". -/
def configured (platform : Platform) (config : Config F) : Option PrefixKey :=
  config.prefixKey.bind (parsePrefixKey platform)

/-- All entries with a prefix key of their own have the same one. -/
def OnePrefix (platform : Platform) (entries : List (Text × Text)) : Prop :=
  ∀ first ∈ entries, ∀ second ∈ entries, ∀ own ∈ prefixOf platform first,
    ∀ other ∈ prefixOf platform second, own = other

/-- The prefix key is configured, or the entries agree on one, and no two entries that it accepts
bind one key to different actions. -/
structure Unambiguous (platform : Platform) (config : Config F) : Prop where
  prefixes : (configured platform config).isSome ∨ OnePrefix platform config.keybinds.entries
  triggers : Functional
    (config.keybinds.entries.filterMap (tablePair platform (configured platform config)))
  direct : Functional (config.keybinds.entries.filterMap (directPair platform))

end Statement

section Prefixes

variable {platform : Platform} {start : Option PrefixKey} {entries order : List (Text × Text)}

theorem findSome?_prefixOf_iff (one : OnePrefix platform entries) (own : PrefixKey) :
    entries.findSome? (prefixOf platform) = some own ↔
      ∃ entry ∈ entries, prefixOf platform entry = some own := by
  constructor
  · exact List.exists_of_findSome?_eq_some
  · rintro ⟨entry, member, asks⟩
    cases found : entries.findSome? (prefixOf platform) with
    | none => rw [List.findSome?_eq_none_iff.mp found entry member] at asks; cases asks
    | some other =>
        obtain ⟨source, held, asked⟩ := List.exists_of_findSome?_eq_some found
        rw [one source held entry member other asked own asks]

/-- The prefix key in use does not depend on the order. -/
theorem prefixInUse_of_perm (settled : start.isSome ∨ OnePrefix platform entries)
    (perm : order.Perm entries) :
    prefixInUse platform start order = prefixInUse platform start entries := by
  cases start with
  | some existing => rfl
  | none =>
      have one : OnePrefix platform entries := settled.resolve_left (by simp)
      have oneOrder : OnePrefix platform order := fun first held second kept =>
        one first (perm.mem_iff.mp held) second (perm.mem_iff.mp kept)
      apply Option.ext
      intro own
      simp only [prefixInUse, Option.none_or, findSome?_prefixOf_iff one,
        findSome?_prefixOf_iff oneOrder, perm.mem_iff]

/-- Where it does not, it accepts the entries that the configured one accepts. -/
theorem tablePair_inUse (settled : start.isSome ∨ OnePrefix platform entries)
    {entry : Text × Text} (member : entry ∈ entries) :
    tablePair platform (prefixInUse platform start entries) entry =
      tablePair platform start entry := by
  cases start with
  | some existing => rfl
  | none =>
      have one : OnePrefix platform entries := settled.resolve_left (by simp)
      have accepts : Accepts platform (prefixInUse platform none entries) entry := by
        intro existing inUse own asks
        rw [prefixInUse, Option.none_or] at inUse
        obtain ⟨source, held, asked⟩ := List.exists_of_findSome?_eq_some inUse
        exact one source held entry member existing asked own asks
      rw [tablePair, if_pos accepts, tablePair, if_pos (by simp [Accepts])]

end Prefixes

section Orders

variable {F : Type} {platform : Platform} {config : Config F}

/-- With a settled prefix key, the bindings of an order are built from what its entries bind. -/
theorem bindingsOf_eq
    (settled : (configured platform config).isSome ∨ OnePrefix platform config.keybinds.entries)
    {order : List (Text × Text)} (perm : order.Perm config.keybinds.entries) :
    bindingsOf platform config order =
      ⟨prefixInUse platform (configured platform config) config.keybinds.entries,
        build (order.filterMap (tablePair platform (configured platform config))),
        build (order.filterMap (directPair platform)), .normal⟩ := by
  have pairs : order.filterMap (tablePair platform (prefixInUse platform
      (configured platform config) config.keybinds.entries)) =
      order.filterMap (tablePair platform (configured platform config)) :=
    List.filterMap_congr fun entry member => tablePair_inUse settled (perm.mem_iff.mp member)
  rw [bindingsOf, readKeymap_eq, fromConfig, ← configured, prefixInUse_of_perm settled perm, pairs]

/-- An entry that comes first sets its prefix key when none is configured. -/
theorem onePrefix_of_independent (independent : OrderIndependent platform config)
    (absent : configured platform config = none) :
    OnePrefix platform config.keybinds.entries := by
  have inUse {entry : Text × Text} {own : PrefixKey} (member : entry ∈ config.keybinds.entries)
      (asks : own ∈ prefixOf platform entry) :
      (bindingsOf platform config config.keybinds.entries).prefixKey = some own := by
    obtain ⟨before, after, cut⟩ := List.append_of_mem member
    have moved : (entry :: (before ++ after)).Perm config.keybinds.entries := by
      rw [cut]
      exact List.perm_middle.symm
    have same := (independent _ _ moved (List.Perm.refl _)).prefixKey
    rw [← same, bindingsOf, readKeymap_eq, fromConfig, ← configured, absent, prefixInUse,
      Option.none_or, List.findSome?_cons, Option.mem_def.mp asks]
  intro first held second kept own asks other asked
  exact Option.some.inj ((inUse held asks).symm.trans (inUse kept asked))

/-- The order does not show exactly when the bindings are unambiguous. -/
theorem orderIndependent_iff (platform : Platform) (config : Config F) :
    OrderIndependent platform config ↔ Unambiguous platform config := by
  constructor
  · intro independent
    have settled : (configured platform config).isSome ∨
        OnePrefix platform config.keybinds.entries := by
      cases absent : configured platform config with
      | none => exact .inr (onePrefix_of_independent independent absent)
      | some existing => exact .inl rfl
    refine ⟨settled, ?_, ?_⟩
    · apply (lookup_build_perm_iff _ _).mp
      intro order perm char
      have same := (independent order _ perm (List.Perm.refl _)).table char
      rwa [bindingsOf_eq settled perm, bindingsOf_eq settled (List.Perm.refl _)] at same
    · apply (lookup_build_perm_iff _ _).mp
      intro order perm key
      have same := (independent order _ perm (List.Perm.refl _)).direct key
      rwa [bindingsOf_eq settled perm, bindingsOf_eq settled (List.Perm.refl _)] at same
  · intro unambiguous first second one two
    rw [bindingsOf_eq unambiguous.prefixes one, bindingsOf_eq unambiguous.prefixes two]
    have triggers := (lookup_build_perm_iff _ _).mpr unambiguous.triggers
    have direct := (lookup_build_perm_iff _ _).mpr unambiguous.direct
    exact ⟨rfl, fun char => (triggers first one char).trans (triggers second two char).symm,
      fun key => (direct first one key).trans (direct second two key).symm⟩

/-- Two lines with prefix keys of their own, and none configured: the first entry wins. -/
theorem two_prefixes_depend : ∃ config,
    Config.parse rationals "keybind = ctrl+a>x=new_tab\nkeybind = ctrl+b>y=close_tab".toList =
      pure config ∧ ¬ OrderIndependent .linux config := by
  refine ⟨_, rfl, ?_⟩
  intro independent
  have one := onePrefix_of_independent independent rfl
  have same : PrefixKey.mk 20 modsCtrl = PrefixKey.mk 21 modsCtrl :=
    one ("ctrl+a>x".toList, "new_tab".toList) (by decide)
      ("ctrl+b>y".toList, "close_tab".toList) (by decide) _ (by decide) _ (by decide)
  exact absurd same (by decide)

end Orders

end Boo.Settings.BindOrder
