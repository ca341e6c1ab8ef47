/- module: Boo/Client/RowBands
   digest: When the cached drawings of the rows are what the rows show. -/

import Boo.Client.RowRevisions
import Boo.Client.RowRuns

set_option autoImplicit false
set_option relaxedAutoImplicit false

namespace Boo.Client.RowBands

open Boo.Lib.ColumnSpans
open Boo.Wire.Message
open Boo.Client.Snapshot
open Boo.Client.RowRevisions
open Boo.Client.RowRuns

section Bands

/-- Neighbouring chunks that are drawn into one cache. -/
structure Band where
  start : Nat
  stop : Nat
  dirty : Bool
  deriving DecidableEq

/-- The band that a chunk with artifacts widens or begins. -/
def widened (current : Option Band) (index : Nat) (dirty : Bool) : Band :=
  match current with
  | some band => ⟨band.start, index + 1, band.dirty || dirty⟩
  | none => ⟨index, index + 1, dirty⟩

/-- The two nested loops over the chunks; `current` is the band that the next chunk may widen. -/
def bandsFrom (hasArtifacts dirty : Nat → Bool) : Nat → Nat → Option Band → List Band
  | _, 0, current => current.toList
  | index, count + 1, current =>
      if hasArtifacts index then
        bandsFrom hasArtifacts dirty (index + 1) count
          (some (widened current index (dirty index)))
      else current.toList ++ bandsFrom hasArtifacts dirty (index + 1) count none

namespace Band

/-- Where a band is, whether it is dirty or not. -/
def place (band : Band) : Nat × Nat := (band.start, band.stop)

theorem eq_of_place {band band' : Band} (dirty : band.dirty = band'.dirty)
    (place : band.place = band'.place) : band = band' := by
  obtain ⟨start, stop⟩ := Prod.mk.inj place
  cases band
  cases band'
  simp_all

/-- The chunks of a band have artifacts; there is one at least. -/
structure Drawn (hasArtifacts : Nat → Bool) (band : Band) : Prop where
  nonempty : band.start < band.stop
  all : ∀ chunk, band.start ≤ chunk → chunk < band.stop → hasArtifacts chunk = true

theorem Drawn.widen {hasArtifacts : Nat → Bool} {band : Band} (drawn : band.Drawn hasArtifacts)
    (dirty : Bool) (shown : hasArtifacts band.stop = true) :
    Drawn hasArtifacts ⟨band.start, band.stop + 1, dirty⟩ := by
  refine ⟨Nat.lt_succ_of_lt drawn.nonempty, fun chunk from_ to_ => ?_⟩
  rcases Nat.lt_succ_iff_lt_or_eq.mp to_ with inside | rfl
  · exact drawn.all chunk from_ inside
  · exact shown

end Band

section Loop

variable {hasArtifacts dirty dirty' : Nat → Bool}

/-- Where the bands are does not depend on what is dirty. -/
theorem place_bandsFrom (count index : Nat) {current current' : Option Band}
    (same : current.map Band.place = current'.map Band.place) :
    (bandsFrom hasArtifacts dirty index count current).map Band.place =
      (bandsFrom hasArtifacts dirty' index count current').map Band.place := by
  induction count generalizing index current current' with
  | zero => cases current <;> cases current' <;> simp_all [bandsFrom]
  | succ count ih =>
      rw [bandsFrom, bandsFrom]
      by_cases shown : hasArtifacts index
      · rw [if_pos shown, if_pos shown]
        apply ih
        cases current <;> cases current' <;> simp_all [widened, Band.place]
      · rw [if_neg shown, if_neg shown, List.map_append, List.map_append,
          @ih (index + 1) none none rfl]
        congr 1
        cases current <;> cases current' <;> simp_all

/-- What holds of a band that the loop is about. -/
theorem forall_bandsFrom {holds : Band → Prop}
    (opens : ∀ index, hasArtifacts index = true → holds ⟨index, index + 1, dirty index⟩)
    (widens : ∀ band : Band, holds band → hasArtifacts band.stop = true →
      holds ⟨band.start, band.stop + 1, band.dirty || dirty band.stop⟩)
    (count index : Nat) {current : Option Band}
    (before : ∀ band ∈ current, band.stop = index ∧ holds band) :
    ∀ band ∈ bandsFrom hasArtifacts dirty index count current, holds band := by
  induction count generalizing index current with
  | zero =>
      intro band member
      exact (before band (Option.mem_toList.mp member)).2
  | succ count ih =>
      intro band member
      rw [bandsFrom] at member
      split at member
      · rename_i shown
        cases current with
        | none =>
            refine ih (index + 1) (fun other next => ?_) band member
            cases next
            exact ⟨rfl, opens index shown⟩
        | some earlier =>
            obtain ⟨rfl, held⟩ := before earlier rfl
            refine ih (earlier.stop + 1) (fun other next => ?_) band member
            cases next
            exact ⟨rfl, widens earlier held shown⟩
      · rcases List.mem_append.mp member with early | late
        · exact (before band (Option.mem_toList.mp early)).2
        · exact ih (index + 1) (fun other next => by cases next) band late

theorem drawn_of_mem_bandsFrom {count : Nat} {band : Band}
    (member : band ∈ bandsFrom hasArtifacts dirty 0 count none) : band.Drawn hasArtifacts := by
  refine forall_bandsFrom (fun index shown => ⟨Nat.lt_succ_self _, fun chunk from_ to_ => ?_⟩)
    (fun band held shown => held.widen _ shown) count 0 (fun _ none => by cases none) band member
  rwa [Nat.le_antisymm (Nat.le_of_lt_succ to_) from_]

/-- A band is dirty if one of its chunks is. -/
structure Band.Marked (dirty : Nat → Bool) (band : Band) : Prop where
  ordered : band.start ≤ band.stop
  iff : band.dirty = true ↔ ∃ chunk, band.start ≤ chunk ∧ chunk < band.stop ∧ dirty chunk = true

theorem marked_of_mem_bandsFrom {count : Nat} {band : Band}
    (member : band ∈ bandsFrom hasArtifacts dirty 0 count none) : band.Marked dirty := by
  refine forall_bandsFrom (fun index shown => ⟨Nat.le_succ _, ?_⟩)
    (fun band held shown => ⟨Nat.le_succ_of_le held.ordered, ?_⟩) count 0
    (fun _ none => by cases none) band member
  · constructor
    · intro set
      exact ⟨index, Nat.le_refl _, Nat.lt_succ_self _, set⟩
    · rintro ⟨chunk, from_, to_, set⟩
      rwa [Nat.le_antisymm (Nat.le_of_lt_succ to_) from_] at set
  · simp only [Bool.or_eq_true, held.iff]
    constructor
    · rintro (⟨chunk, from_, to_, set⟩ | set)
      · exact ⟨chunk, from_, Nat.lt_succ_of_lt to_, set⟩
      · exact ⟨band.stop, held.ordered, Nat.lt_succ_self _, set⟩
    · rintro ⟨chunk, from_, to_, set⟩
      rcases Nat.lt_succ_iff_lt_or_eq.mp to_ with inside | rfl
      · exact .inl ⟨chunk, from_, inside, set⟩
      · exact .inr set

/-- Chunks without artifacts are left out, and every other chunk is in one band. -/
theorem flatMap_bandsFrom {M : Type} {shows : Nat → List M}
    (blank : ∀ chunk, hasArtifacts chunk = false → shows chunk = []) (count index : Nat)
    {current : Option Band}
    (before : ∀ band ∈ current, band.start ≤ band.stop ∧ band.stop = index) :
    (bandsFrom hasArtifacts dirty index count current).flatMap
        (fun band => (List.range' band.start (band.stop - band.start)).flatMap shows) =
      current.toList.flatMap
          (fun band => (List.range' band.start (band.stop - band.start)).flatMap shows) ++
        (List.range' index count).flatMap shows := by
  induction count generalizing index current with
  | zero => simp [bandsFrom]
  | succ count ih =>
      rw [List.range'_succ, List.flatMap_cons, bandsFrom]
      split
      · rename_i shown
        cases current with
        | none =>
            rw [ih (index + 1) (by rintro band ⟨rfl⟩; exact ⟨Nat.le_succ _, rfl⟩)]
            simp [widened]
        | some band =>
            obtain ⟨ordered, rfl⟩ := before band rfl
            rw [ih (band.stop + 1) (by rintro other ⟨rfl⟩; exact ⟨Nat.le_succ_of_le ordered, rfl⟩)]
            have wider : List.range' band.start (band.stop + 1 - band.start) =
                List.range' band.start (band.stop - band.start) ++ [band.stop] := by
              rw [Nat.succ_sub ordered, List.range'_concat]
              congr 2
              omega
            simp [widened, wider]
      · rename_i hidden
        have nothing := blank index (Bool.eq_false_iff.mpr hidden)
        rw [List.flatMap_append, ih (index + 1) (fun _ none => by cases none), nothing]
        simp

end Loop

end Bands

section Caches

variable {Cache Bounds Drawn : Type}

/-- `canvas::Cache`, of a library; `draw` is given what its closure would draw. -/
structure CanvasCache (Cache Bounds Drawn : Type) where
  new : Cache
  clear : Cache → Cache
  draw : Cache → Bounds → Drawn → Drawn × Cache

namespace CanvasCache

/-- What is documented of the caches: the closure is called if the cache is new, was cleared or is
drawn with other bounds, and otherwise what it drew last is returned. -/
structure Documented (lib : CanvasCache Cache Bounds Drawn) : Prop where
  new : ∀ bounds fresh, (lib.draw lib.new bounds fresh).1 = fresh
  cleared : ∀ cache bounds fresh, (lib.draw (lib.clear cache) bounds fresh).1 = fresh
  again : ∀ cache bounds drawn fresh,
    (lib.draw (lib.draw cache bounds drawn).2 bounds fresh).1 = (lib.draw cache bounds drawn).1
  resized : ∀ cache bounds bounds' drawn fresh, bounds ≠ bounds' →
    (lib.draw (lib.draw cache bounds drawn).2 bounds' fresh).1 = fresh

variable (lib : CanvasCache Cache Bounds Drawn)

/-- The cache after a call of `draw` that returned `drawn`. -/
def Holds (cache : Cache) (bounds : Bounds) (drawn : Drawn) : Prop :=
  ∃ before fresh, lib.draw before bounds fresh = (drawn, cache)

/-- The closure is called at the next `draw`. -/
def Empty (cache : Cache) : Prop := ∀ bounds fresh, (lib.draw cache bounds fresh).1 = fresh

variable {lib} {cache : Cache} {bounds : Bounds} {drawn fresh : Drawn}

theorem Holds.again (holds : lib.Holds cache bounds drawn) (documented : lib.Documented) :
    (lib.draw cache bounds fresh).1 = drawn := by
  obtain ⟨before, earlier, same⟩ := holds
  have again := documented.again before bounds earlier fresh
  rwa [same] at again

theorem Holds.resized {bounds' : Bounds} (holds : lib.Holds cache bounds drawn)
    (documented : lib.Documented) (changed : bounds ≠ bounds') :
    (lib.draw cache bounds' fresh).1 = fresh := by
  obtain ⟨before, earlier, same⟩ := holds
  have resized := documented.resized before bounds bounds' earlier fresh changed
  rwa [same] at resized

/-- Whatever was in the caches, after clearing them nothing is, nor behind the last of them. -/
theorem empty_of_cleared (documented : lib.Documented) (caches : List Cache) (index : Nat) :
    lib.Empty ((caches.map lib.clear).getD index lib.new) := by
  intro bounds fresh
  rw [List.getD_eq_getElem?_getD, List.getElem?_map]
  cases caches[index]? with
  | none => exact documented.new bounds fresh
  | some cache => exact documented.cleared cache bounds fresh

/-- A cache that stores the bounds and what was drawn. -/
def storing (Bounds Drawn : Type) [DecidableEq Bounds] :
    CanvasCache (Option (Bounds × Drawn)) Bounds Drawn where
  new := none
  clear _ := none
  draw cache bounds fresh :=
    match cache with
    | some (held, drawn) =>
        if held = bounds then (drawn, cache) else (fresh, some (bounds, fresh))
    | none => (fresh, some (bounds, fresh))

theorem storing_documented (Bounds Drawn : Type) [DecidableEq Bounds] :
    (storing Bounds Drawn).Documented := by
  refine ⟨fun _ _ => rfl, fun _ _ _ => rfl, ?_, ?_⟩
  · intro cache bounds drawn fresh
    rcases cache with _ | ⟨held, earlier⟩
    · simp [storing]
    · by_cases same : held = bounds <;> simp [storing, same]
  · intro cache bounds bounds' drawn fresh changed
    rcases cache with _ | ⟨held, earlier⟩
    · simp [storing, changed]
    · by_cases same : held = bounds
      · subst same
        simp [storing, changed]
      · simp [storing, same, changed]

end CanvasCache

end Caches

section Canvas

variable (Alpha Color Look Bounds Style Cache : Type)

structure RowArtifacts where
  backgroundSpans : List (ColumnSpan Color)
  textRuns : List (TextRun Color)
  underlineSpans : List (ColumnSpan Color)
  deriving DecidableEq

/-- What `draw` reads for the rows. `look` is what else their pixels depend on: the font and cell
sizes, the viewport and the appearance. -/
structure TerminalCanvas where
  snapshot : TerminalSnapshot Style
  look : Look
  bounds : Bounds
  backgroundOpacity : Alpha
  backgroundOpacityCells : Bool
  fontFamilies : List String
  urlColor : Option Color
  paintText : Bool

/-- The hashes of a style and of a row that has no revision, which the standard library
computes. -/
structure Hashes where
  style : TerminalCanvas Alpha Color Look Bounds Style → UInt64
  row : Nat → UInt64 → Row → UInt64

/-- What a row is drawn with; columns and rows stand for the pixels. -/
inductive Mark
  | fill (row : Nat) (span : ColumnSpan Color)
  | text (row : Nat) (run : TextRun Color)
  | underline (row start width : Nat) (color : Color)
  deriving DecidableEq

/-- What one cache holds. -/
structure Geometry where
  look : Look
  marks : List (Mark Color)
  deriving DecidableEq

/-- `cached_bands` is left out: it is written and never read. -/
structure TerminalCanvasState where
  rowBandCaches : List Cache
  rowStyleFingerprint : Option UInt64
  rowSeenRevisions : List UInt64
  rowArtifactFingerprints : List UInt64
  rowArtifacts : List (RowArtifacts Color)

end Canvas

section Drawing

variable {Alpha Color Look Bounds Style Cache : Type} [DecidableEq Color]

def RowArtifacts.blank : RowArtifacts Color := ⟨[], [], []⟩

def RowArtifacts.isBlank (artifacts : RowArtifacts Color) : Bool :=
  artifacts.backgroundSpans.isEmpty && artifacts.textRuns.isEmpty &&
    artifacts.underlineSpans.isEmpty

def TerminalCanvasState.default : TerminalCanvasState Color Cache := ⟨[], none, [], [], []⟩

namespace TerminalCanvas

variable (lib : CanvasCache Cache Bounds (Geometry Color Look)) (inks : Inks Alpha Color)
  (hashes : Hashes Alpha Color Look Bounds Style)
  (canvas : TerminalCanvas Alpha Color Look Bounds Style)

def rowCount : Nat := canvas.snapshot.rowsData.length

def rowCacheChunkSize : Nat :=
  if canvas.snapshot.rows.toNat ≤ 48 then 4 else if canvas.snapshot.rows.toNat ≤ 96 then 8 else 12

/-- `div_ceil` -/
def chunkCount : Nat :=
  (canvas.rowCount + (canvas.rowCacheChunkSize - 1)) / canvas.rowCacheChunkSize

def rowFingerprint (index : Nat) : UInt64 :=
  match canvas.snapshot.rowRevisions[index]? with
  | some revision =>
      hashes.style canvas ^^^ rotateLeft revision 17 ^^^ rotateLeft (UInt64.ofNat index) 33
  | none => hashes.row index (hashes.style canvas) (canvas.snapshot.rowsData.getD index [])

def rowRevisionValue (index : Nat) : UInt64 :=
  canvas.snapshot.rowRevisions[index]?.getD (canvas.rowFingerprint hashes index)

def buildArtifacts (index : Nat) : RowArtifacts Color :=
  let row := canvas.snapshot.rowsData.getD index []
  let cols := canvas.snapshot.cols.toNat
  { backgroundSpans :=
      buildBackgroundSpans inks row cols canvas.backgroundOpacity canvas.backgroundOpacityCells
    textRuns :=
      if canvas.paintText then buildTextRuns inks row cols canvas.fontFamilies canvas.urlColor
      else []
    underlineSpans := buildUnderlineSpans inks row cols canvas.urlColor }

/-- The rows from the start of one chunk to the end of another. -/
def rowsOf (start stop : Nat) : List Nat :=
  List.range' (start * canvas.rowCacheChunkSize)
    (min (stop * canvas.rowCacheChunkSize) canvas.rowCount - start * canvas.rowCacheChunkSize)

def drawRow (artifacts : RowArtifacts Color) (index : Nat) : List (Mark Color) :=
  artifacts.backgroundSpans.map (Mark.fill index) ++
    ((if canvas.paintText then
        artifacts.textRuns.flatMap fun run =>
          Mark.text index run ::
            (if run.underline then [Mark.underline index run.startCol run.widthCols run.fg] else [])
      else []) ++
      if canvas.paintText then []
      else artifacts.underlineSpans.map fun span =>
        Mark.underline index span.startCol span.widthCols span.color)

def drawBand (artifacts : Nat → RowArtifacts Color) (band : Band) : Geometry Color Look where
  look := canvas.look
  marks := (canvas.rowsOf band.start band.stop).flatMap fun index =>
    canvas.drawRow (artifacts index) index

/-- A row keeps its artifacts while its fingerprint is the same; a missing entry of a list stands
for what `resize` puts there. -/
def artifactsAfter (state : TerminalCanvasState Color Cache) (index : Nat) :
    RowArtifacts Color :=
  if state.rowArtifactFingerprints.getD index 0 ≠ canvas.rowFingerprint hashes index then
    canvas.buildArtifacts inks index
  else state.rowArtifacts.getD index .blank

def chunkDirty (state : TerminalCanvasState Color Cache) (chunk : Nat) : Bool :=
  state.rowStyleFingerprint ≠ some (hashes.style canvas) ||
    (canvas.rowsOf chunk (chunk + 1)).any fun index =>
      state.rowSeenRevisions.getD index 0 ≠ canvas.rowRevisionValue hashes index

def chunkHasArtifacts (artifacts : Nat → RowArtifacts Color) (chunk : Nat) : Bool :=
  (canvas.rowsOf chunk (chunk + 1)).any fun index => !(artifacts index).isBlank

def bands (artifacts : Nat → RowArtifacts Color) (dirty : Nat → Bool) : List Band :=
  bandsFrom (canvas.chunkHasArtifacts artifacts) dirty 0 canvas.chunkCount none

/-- The cache that a band is drawn with; a missing one stands for what `resize` puts there. -/
def bandCache (state : TerminalCanvasState Color Cache) (index : Nat) (band : Band) : Cache :=
  let caches :=
    if state.rowStyleFingerprint ≠ some (hashes.style canvas) then
      state.rowBandCaches.map lib.clear
    else state.rowBandCaches
  if band.dirty then lib.clear (caches.getD index lib.new) else caches.getD index lib.new

/-- The part of `draw` that is about the rows: a geometry for each band, and the state after it. -/
def draw (state : TerminalCanvasState Color Cache) :
    List (Geometry Color Look) × TerminalCanvasState Color Cache :=
  let artifacts := canvas.artifactsAfter inks hashes state
  let bands := canvas.bands artifacts (canvas.chunkDirty hashes state)
  let drawn := bands.mapIdx fun index band =>
    lib.draw (canvas.bandCache lib hashes state index band) canvas.bounds
      (canvas.drawBand artifacts band)
  (drawn.map Prod.fst,
    { rowBandCaches := drawn.map Prod.snd
      rowStyleFingerprint := some (hashes.style canvas)
      rowSeenRevisions := (List.range canvas.rowCount).map (canvas.rowRevisionValue hashes)
      rowArtifactFingerprints := (List.range canvas.rowCount).map (canvas.rowFingerprint hashes)
      rowArtifacts := (List.range canvas.rowCount).map artifacts })

end TerminalCanvas

end Drawing

section Rows

variable {Alpha Color Look Bounds Style : Type}
  (canvas : TerminalCanvas Alpha Color Look Bounds Style)

namespace TerminalCanvas

theorem rowCacheChunkSize_pos : 0 < canvas.rowCacheChunkSize := by
  rw [rowCacheChunkSize]
  split
  · decide
  · split <;> decide

/-- A row is in the chunk that its index falls into. -/
theorem mem_rowsOf {start stop index : Nat} :
    index ∈ canvas.rowsOf start stop ↔ index < canvas.rowCount ∧
      start ≤ index / canvas.rowCacheChunkSize ∧ index / canvas.rowCacheChunkSize < stop := by
  have pos := canvas.rowCacheChunkSize_pos
  rw [rowsOf, List.mem_range'_1, Nat.le_div_iff_mul_le pos, Nat.div_lt_iff_lt_mul pos]
  omega

theorem mem_rowsOf_chunk {chunk index : Nat} :
    index ∈ canvas.rowsOf chunk (chunk + 1) ↔
      index < canvas.rowCount ∧ index / canvas.rowCacheChunkSize = chunk := by
  rw [mem_rowsOf]
  omega

theorem rowsOf_succ {start stop : Nat} (ordered : start ≤ stop) :
    canvas.rowsOf start (stop + 1) = canvas.rowsOf start stop ++ canvas.rowsOf stop (stop + 1) := by
  have mul := Nat.mul_le_mul_right canvas.rowCacheChunkSize ordered
  have next : (stop + 1) * canvas.rowCacheChunkSize =
      stop * canvas.rowCacheChunkSize + canvas.rowCacheChunkSize := Nat.succ_mul _ _
  rw [rowsOf, rowsOf, rowsOf, next]
  by_cases inside : stop * canvas.rowCacheChunkSize ≤ canvas.rowCount
  · rw [Nat.min_eq_left inside]
    have pieces := @List.range'_append_1 (start * canvas.rowCacheChunkSize)
      (stop * canvas.rowCacheChunkSize - start * canvas.rowCacheChunkSize)
      (min (stop * canvas.rowCacheChunkSize + canvas.rowCacheChunkSize) canvas.rowCount -
        stop * canvas.rowCacheChunkSize)
    rw [Nat.add_sub_cancel' mul] at pieces
    rw [pieces]
    congr 1
    omega
  · have same : min (stop * canvas.rowCacheChunkSize + canvas.rowCacheChunkSize) canvas.rowCount =
        min (stop * canvas.rowCacheChunkSize) canvas.rowCount := by omega
    have none : min (stop * canvas.rowCacheChunkSize) canvas.rowCount -
        stop * canvas.rowCacheChunkSize = 0 := by omega
    rw [same, none, List.range'_zero, List.append_nil]

theorem rowsOf_chunks (start : Nat) (count : Nat) :
    canvas.rowsOf start (start + count) =
      (List.range' start count).flatMap fun chunk => canvas.rowsOf chunk (chunk + 1) := by
  induction count with
  | zero =>
      have none : min (start * canvas.rowCacheChunkSize) canvas.rowCount -
          start * canvas.rowCacheChunkSize = 0 := by omega
      rw [Nat.add_zero, rowsOf, none]
      rfl
  | succ count ih =>
      rw [List.range'_concat, List.flatMap_append, ← ih, ← Nat.add_assoc,
        rowsOf_succ _ (Nat.le_add_right _ _)]
      simp

theorem rowsOf_all : canvas.rowsOf 0 canvas.chunkCount = List.range canvas.rowCount := by
  have pos := canvas.rowCacheChunkSize_pos
  have whole : canvas.rowCount ≤ canvas.chunkCount * canvas.rowCacheChunkSize := by
    have bound := @Nat.lt_div_mul_add (canvas.rowCount + (canvas.rowCacheChunkSize - 1)) _ pos
    rw [chunkCount]
    omega
  rw [rowsOf, Nat.min_eq_right whole, Nat.zero_mul, Nat.sub_zero, List.range_eq_range']

end TerminalCanvas

end Rows

section Marks

variable {Alpha Color Look Bounds Style : Type}

def Mark.row : Mark Color → Nat
  | .fill row _ => row
  | .text row _ => row
  | .underline row _ _ _ => row

namespace TerminalCanvas

variable (canvas : TerminalCanvas Alpha Color Look Bounds Style)

theorem drawRow_of_blank {artifacts : RowArtifacts Color} (blank : artifacts.isBlank = true)
    (index : Nat) : canvas.drawRow artifacts index = [] := by
  simp only [RowArtifacts.isBlank, Bool.and_eq_true, List.isEmpty_iff] at blank
  obtain ⟨⟨backgrounds, texts⟩, underlines⟩ := blank
  simp [drawRow, backgrounds, texts, underlines]

theorem row_of_mem_drawRow {artifacts : RowArtifacts Color} {index : Nat} {mark : Mark Color}
    (member : mark ∈ canvas.drawRow artifacts index) : mark.row = index := by
  rw [drawRow, List.mem_append, List.mem_append] at member
  rcases member with fill | text | underline
  · obtain ⟨span, -, rfl⟩ := List.mem_map.mp fill
    rfl
  · split at text
    · obtain ⟨run, -, among⟩ := List.mem_flatMap.mp text
      rcases List.mem_cons.mp among with rfl | under
      · rfl
      · split at under
        · rw [List.mem_singleton.mp under]
          rfl
        · cases under
    · cases text
  · split at underline
    · cases underline
    · obtain ⟨span, -, rfl⟩ := List.mem_map.mp underline
      rfl

/-- The rows that a band leaves marks of. -/
theorem exists_mark_iff {artifacts : Nat → RowArtifacts Color} {band : Band} {index : Nat} :
    (∃ mark ∈ (canvas.drawBand artifacts band).marks, mark.row = index) ↔
      index ∈ canvas.rowsOf band.start band.stop ∧ canvas.drawRow (artifacts index) index ≠ [] := by
  constructor
  · rintro ⟨mark, member, rfl⟩
    obtain ⟨other, inside, among⟩ := List.mem_flatMap.mp member
    rw [canvas.row_of_mem_drawRow among]
    exact ⟨inside, List.ne_nil_of_mem among⟩
  · rintro ⟨inside, some_⟩
    obtain ⟨mark, among⟩ := List.exists_mem_of_ne_nil _ some_
    exact ⟨mark, List.mem_flatMap.mpr ⟨index, inside, among⟩, canvas.row_of_mem_drawRow among⟩

theorem bands_congr {artifacts artifacts' : Nat → RowArtifacts Color}
    (same : ∀ index < canvas.rowCount, artifacts index = artifacts' index) (dirty : Nat → Bool) :
    canvas.bands artifacts dirty = canvas.bands artifacts' dirty := by
  have shown : canvas.chunkHasArtifacts artifacts = canvas.chunkHasArtifacts artifacts' := by
    funext chunk
    rw [chunkHasArtifacts, chunkHasArtifacts, Bool.eq_iff_iff, List.any_eq_true,
      List.any_eq_true]
    refine exists_congr fun index => and_congr_right fun inside => ?_
    rw [same index (canvas.mem_rowsOf.mp inside).1]
  rw [bands, bands, shown]

theorem drawBand_congr {artifacts artifacts' : Nat → RowArtifacts Color}
    (same : ∀ index < canvas.rowCount, artifacts index = artifacts' index) (band : Band) :
    canvas.drawBand artifacts band = canvas.drawBand artifacts' band := by
  rw [drawBand, drawBand]
  congr 1
  refine List.flatMap_congr ?_
  intro index inside
  rw [same index (canvas.mem_rowsOf.mp inside).1]

theorem drawBand_place {artifacts : Nat → RowArtifacts Color} {band band' : Band}
    (same : band.place = band'.place) :
    canvas.drawBand artifacts band = canvas.drawBand artifacts band' := by
  obtain ⟨start, stop⟩ := Prod.mk.inj same
  rw [drawBand, drawBand, start, stop]

end TerminalCanvas

end Marks

section Plain

variable {Alpha Color Look Bounds Style : Type} [DecidableEq Color]
  (inks : Inks Alpha Color)

namespace TerminalCanvas

variable (canvas : TerminalCanvas Alpha Color Look Bounds Style)

/-- The bands of a canvas, none of them dirty. -/
def places : List Band := canvas.bands (canvas.buildArtifacts inks) fun _ => false

/-- What is drawn if nothing is cached. -/
def plain : List (Geometry Color Look) :=
  (canvas.places inks).map (canvas.drawBand (canvas.buildArtifacts inks))

/-- Every row is drawn once and in order. -/
theorem flatMap_plain : (canvas.plain inks).flatMap Geometry.marks =
    (List.range canvas.rowCount).flatMap fun index =>
      canvas.drawRow (canvas.buildArtifacts inks index) index := by
  have blank (chunk : Nat)
      (hidden : canvas.chunkHasArtifacts (canvas.buildArtifacts inks) chunk = false) :
      ((canvas.rowsOf chunk (chunk + 1)).flatMap fun index =>
        canvas.drawRow (canvas.buildArtifacts inks index) index) = [] := by
    refine List.flatMap_eq_nil_iff.mpr fun index inside => ?_
    refine canvas.drawRow_of_blank ?_ index
    have none := List.any_eq_false.mp hidden index inside
    simpa using none
  have covered := @flatMap_bandsFrom _ (fun _ => false) _ _ blank canvas.chunkCount 0 none
    (fun _ none => by cases none)
  rw [Option.toList_none, List.flatMap_nil, List.nil_append] at covered
  have rows := canvas.rowsOf_chunks 0 canvas.chunkCount
  rw [Nat.zero_add, canvas.rowsOf_all] at rows
  rw [rows, List.flatMap_assoc, ← covered, plain, List.flatMap_map]
  refine List.flatMap_congr fun band member => ?_
  obtain ⟨nonempty, -⟩ := drawn_of_mem_bandsFrom member
  have pieces := canvas.rowsOf_chunks band.start (band.stop - band.start)
  rw [Nat.add_sub_cancel' (Nat.le_of_lt nonempty)] at pieces
  rw [drawBand, pieces, List.flatMap_assoc]

end TerminalCanvas

end Plain

section Runs

variable {Alpha Color Look Bounds Style Cache : Type} [DecidableEq Color]
  (lib : CanvasCache Cache Bounds (Geometry Color Look)) (inks : Inks Alpha Color)
  (hashes : Hashes Alpha Color Look Bounds Style)

namespace TerminalCanvas

variable (canvas : TerminalCanvas Alpha Color Look Bounds Style)

/-- What a run of frames promises to the caches: a row that keeps its fingerprint, or its revision
in one style, keeps its artifacts, one style has one look and one grid, and artifacts can be
seen. -/
structure Faithful (frames : List (TerminalCanvas Alpha Color Look Bounds Style)) : Prop where
  fingerprints : ∀ f ∈ frames, ∀ g ∈ frames, ∀ index, index < f.rowCount → index < g.rowCount →
    f.rowFingerprint hashes index = g.rowFingerprint hashes index →
      f.buildArtifacts inks index = g.buildArtifacts inks index
  named : ∀ f ∈ frames, ∀ index < f.rowCount, f.rowFingerprint hashes index ≠ 0
  revisions : ∀ f ∈ frames, ∀ g ∈ frames, hashes.style f = hashes.style g →
    ∀ index < f.rowCount, f.rowRevisionValue hashes index = g.rowRevisionValue hashes index →
      f.buildArtifacts inks index = g.buildArtifacts inks index
  looks : ∀ f ∈ frames, ∀ g ∈ frames, hashes.style f = hashes.style g →
    f.look = g.look ∧ f.paintText = g.paintText
  grids : ∀ f ∈ frames, ∀ g ∈ frames, hashes.style f = hashes.style g →
    f.rowCount = g.rowCount ∧ f.snapshot.rows = g.snapshot.rows
  visible : ∀ f ∈ frames, ∀ index < f.rowCount,
    (f.buildArtifacts inks index).isBlank = false →
      f.drawRow (f.buildArtifacts inks index) index ≠ []

/-- After `earlier`, a band none of whose rows has changed is the band that had its place in the
list before, if one had. -/
def KeepsPlaces (earlier canvas : TerminalCanvas Alpha Color Look Bounds Style) : Prop :=
  earlier.bounds = canvas.bounds → hashes.style earlier = hashes.style canvas →
    ∀ (place : Nat) (before band : Band), (earlier.places inks)[place]? = some before →
      (canvas.places inks)[place]? = some band →
        (∀ index ∈ canvas.rowsOf band.start band.stop,
          earlier.rowRevisionValue hashes index = canvas.rowRevisionValue hashes index) →
            before = band

/-- What the frames draw one after the other, from a state. -/
def drawAll (state : TerminalCanvasState Color Cache) :
    List (TerminalCanvas Alpha Color Look Bounds Style) → List (List (Geometry Color Look))
  | [] => []
  | canvas :: frames =>
      (canvas.draw lib inks hashes state).1 :: drawAll (canvas.draw lib inks hashes state).2 frames

/-- The state after a frame that was drawn as it is. -/
structure Shows (state : TerminalCanvasState Color Cache) : Prop where
  caches : List.Forall₂ (fun cache geometry => lib.Holds cache canvas.bounds geometry)
    state.rowBandCaches (canvas.plain inks)
  style : state.rowStyleFingerprint = some (hashes.style canvas)
  seen : state.rowSeenRevisions = (List.range canvas.rowCount).map (canvas.rowRevisionValue hashes)
  prints : state.rowArtifactFingerprints =
    (List.range canvas.rowCount).map (canvas.rowFingerprint hashes)
  artifacts : state.rowArtifacts = (List.range canvas.rowCount).map (canvas.buildArtifacts inks)

variable {lib inks hashes canvas} {earlier : TerminalCanvas Alpha Color Look Bounds Style}
  {state : TerminalCanvasState Color Cache}
  {frames : List (TerminalCanvas Alpha Color Look Bounds Style)}

theorem Shows.held {place : Nat} {geometry : Geometry Color Look}
    (shows : earlier.Shows lib inks hashes state)
    (inPlain : (earlier.plain inks)[place]? = some geometry) :
    ∃ cache, state.rowBandCaches[place]? = some cache ∧
      lib.Holds cache earlier.bounds geometry := by
  have inside : place < (earlier.plain inks).length := (List.getElem?_eq_some_iff.mp inPlain).1
  have bound : place < state.rowBandCaches.length := shows.caches.length_eq ▸ inside
  refine ⟨state.rowBandCaches[place], List.getElem?_eq_getElem bound, ?_⟩
  have both := List.forall₂_iff_get.mp shows.caches
  have same := both.2 place bound inside
  rwa [List.get_eq_getElem, List.get_eq_getElem, (List.getElem?_eq_some_iff.mp inPlain).2] at same

/-- Whatever is kept of the rows is what would be built. -/
theorem Shows.artifactsAfter (shows : earlier.Shows lib inks hashes state)
    (faithful : Faithful inks hashes frames) (before : earlier ∈ frames) (here : canvas ∈ frames)
    {index : Nat} (inside : index < canvas.rowCount) :
    canvas.artifactsAfter inks hashes state index = canvas.buildArtifacts inks index := by
  rw [TerminalCanvas.artifactsAfter, shows.prints, shows.artifacts]
  split
  · rfl
  · rename_i same
    rw [not_not] at same
    by_cases known : index < earlier.rowCount
    · simp only [List.getD_eq_getElem?_getD, List.getElem?_map, List.getElem?_range known,
        Option.map_some, Option.getD_some] at same ⊢
      exact faithful.fingerprints earlier before canvas here index known inside same
    · have none : ((List.range earlier.rowCount).map
          (earlier.rowFingerprint hashes)).getD index 0 = 0 := by
        rw [List.getD_eq_getElem?_getD, List.getElem?_eq_none (by simpa using known)]
        rfl
      rw [none] at same
      exact absurd same.symm (faithful.named canvas here index inside)

theorem artifactsAfter_default (faithful : Faithful inks hashes frames) (here : canvas ∈ frames)
    {index : Nat} (inside : index < canvas.rowCount) :
    canvas.artifactsAfter inks hashes (TerminalCanvasState.default : TerminalCanvasState Color
      Cache) index = canvas.buildArtifacts inks index := by
  rw [TerminalCanvas.artifactsAfter, if_pos]
  exact (faithful.named canvas here index inside).symm

/-- A frame for whose rows nothing wrong is kept: what it draws, band by band. -/
theorem draw_geometries
    (kept : ∀ index < canvas.rowCount,
      canvas.artifactsAfter inks hashes state index = canvas.buildArtifacts inks index) :
    (canvas.draw lib inks hashes state).1 =
      (canvas.bands (canvas.buildArtifacts inks) (canvas.chunkDirty hashes state)).mapIdx
        fun index band =>
          (lib.draw (canvas.bandCache lib hashes state index band) canvas.bounds
            (canvas.drawBand (canvas.buildArtifacts inks) band)).1 := by
  rw [draw]
  dsimp only
  rw [canvas.bands_congr kept, eq_comm, List.mapIdx_eq_iff]
  intro index
  rw [List.getElem?_map, List.getElem?_mapIdx, Option.map_map]
  congr 1
  funext band
  rw [Function.comp_apply, canvas.drawBand_congr kept]

/-- What is dirty does not change what is drawn if nothing is cached. -/
theorem plain_eq_bands (dirty : Nat → Bool) :
    canvas.plain inks = (canvas.bands (canvas.buildArtifacts inks) dirty).map
      (canvas.drawBand (canvas.buildArtifacts inks)) := by
  have same : (canvas.places inks).map Band.place =
      (canvas.bands (canvas.buildArtifacts inks) dirty).map Band.place :=
    place_bandsFrom canvas.chunkCount 0 rfl
  apply List.ext_getElem?
  intro index
  have at_ := congrArg (fun places => places[index]?) same
  simp only [List.getElem?_map] at at_
  rw [plain, List.getElem?_map, List.getElem?_map]
  cases here : (canvas.places inks)[index]? with
  | none =>
      rw [here] at at_
      rw [Option.map_eq_none_iff.mp at_.symm]
  | some band =>
      rw [here] at at_
      obtain ⟨band', there, place⟩ := Option.map_eq_some_iff.mp at_.symm
      rw [there, Option.map_some, Option.map_some, canvas.drawBand_place place]

/-- The state after a frame that is drawn as it is. -/
theorem Shows.of_draw
    (kept : ∀ index < canvas.rowCount,
      canvas.artifactsAfter inks hashes state index = canvas.buildArtifacts inks index)
    (drawn : (canvas.draw lib inks hashes state).1 = canvas.plain inks) :
    canvas.Shows lib inks hashes (canvas.draw lib inks hashes state).2 := by
  refine ⟨?_, rfl, rfl, rfl, ?_⟩
  · rw [← drawn]
    refine List.forall₂_map_left_iff.mpr (List.forall₂_map_right_iff.mpr
      (List.forall₂_same.mpr fun pair member => ?_))
    obtain ⟨index, -, rfl⟩ := List.mem_mapIdx.mp member
    exact ⟨_, _, rfl⟩
  · exact List.map_congr_left fun index inside => kept index (List.mem_range.mp inside)

omit [DecidableEq Color] in
/-- A changed style leaves nothing in the caches. -/
theorem empty_of_style (documented : lib.Documented)
    (changed : state.rowStyleFingerprint ≠ some (hashes.style canvas)) (index : Nat)
    (band : Band) : lib.Empty (canvas.bandCache lib hashes state index band) := by
  rw [bandCache, if_pos changed]
  split
  · exact documented.cleared _
  · exact CanvasCache.empty_of_cleared documented _ index

omit [DecidableEq Color] in
theorem empty_of_dirty (documented : lib.Documented) (index : Nat) {band : Band}
    (dirty : band.dirty = true) : lib.Empty (canvas.bandCache lib hashes state index band) := by
  rw [bandCache, if_pos dirty]
  exact documented.cleared _

/-- The first frame draws everything. -/
theorem draw_default (documented : lib.Documented) (faithful : Faithful inks hashes frames)
    (here : canvas ∈ frames) : (canvas.draw lib inks hashes .default).1 = canvas.plain inks := by
  rw [draw_geometries fun index => artifactsAfter_default faithful here,
    plain_eq_bands (canvas.chunkDirty hashes (TerminalCanvasState.default : TerminalCanvasState
      Color Cache)), List.mapIdx_eq_iff]
  intro index
  rw [List.getElem?_map]
  congr 1
  funext band
  have changed : (TerminalCanvasState.default :
      TerminalCanvasState Color Cache).rowStyleFingerprint ≠ some (hashes.style canvas) :=
    (Option.some_ne_none _).symm
  exact (empty_of_style documented changed index band _ _).symm

/-- A band of one style is clean if none of its rows has changed. -/
theorem Shows.clean_iff (shows : earlier.Shows lib inks hashes state)
    (faithful : Faithful inks hashes frames) (before : earlier ∈ frames) (here : canvas ∈ frames)
    (style : hashes.style earlier = hashes.style canvas) {artifacts : Nat → RowArtifacts Color}
    {band : Band} (member : band ∈ canvas.bands artifacts (canvas.chunkDirty hashes state)) :
    band.dirty = false ↔ ∀ index ∈ canvas.rowsOf band.start band.stop,
      earlier.rowRevisionValue hashes index = canvas.rowRevisionValue hashes index := by
  obtain ⟨count, -⟩ := faithful.grids earlier before canvas here style
  have seen {index : Nat} (inside : index < canvas.rowCount) :
      state.rowSeenRevisions.getD index 0 = earlier.rowRevisionValue hashes index := by
    rw [shows.seen, List.getD_eq_getElem?_getD, List.getElem?_map,
      List.getElem?_range (count ▸ inside)]
    rfl
  have chunk_iff (chunk : Nat) : canvas.chunkDirty hashes state chunk = true ↔
      ∃ index, index < canvas.rowCount ∧ index / canvas.rowCacheChunkSize = chunk ∧
        earlier.rowRevisionValue hashes index ≠ canvas.rowRevisionValue hashes index := by
    rw [chunkDirty, shows.style, style, decide_eq_false (not_not_intro rfl), Bool.false_or,
      List.any_eq_true]
    refine exists_congr fun index => ?_
    rw [mem_rowsOf_chunk, and_assoc]
    refine and_congr_right fun inside => ?_
    rw [seen inside, decide_eq_true_iff]
  rw [← Bool.not_eq_true, (marked_of_mem_bandsFrom member).iff]
  constructor
  · intro none index inside
    obtain ⟨inside, from_, to_⟩ := canvas.mem_rowsOf.mp inside
    by_contra changed
    exact none ⟨_, from_, to_, (chunk_iff _).mpr ⟨index, inside, rfl, changed⟩⟩
  · rintro same ⟨chunk, from_, to_, dirty⟩
    obtain ⟨index, inside, rfl, changed⟩ := (chunk_iff _).mp dirty
    exact changed (same index (canvas.mem_rowsOf.mpr ⟨inside, from_, to_⟩))

/-- Every chunk of a band leaves a mark, which tells the chunk. -/
theorem chunk_of_marks (faithful : Faithful inks hashes frames) (before : earlier ∈ frames)
    (rows : earlier.snapshot.rows = canvas.snapshot.rows) {band band' : Band}
    (drawn : band.Drawn (earlier.chunkHasArtifacts (earlier.buildArtifacts inks)))
    (same : (earlier.drawBand (earlier.buildArtifacts inks) band).marks =
      (canvas.drawBand (canvas.buildArtifacts inks) band').marks) {chunk : Nat}
    (from_ : band.start ≤ chunk) (to_ : chunk < band.stop) :
    band'.start ≤ chunk ∧ chunk < band'.stop := by
  obtain ⟨index, inside, shown⟩ := List.any_eq_true.mp (drawn.all chunk from_ to_)
  rw [Bool.not_eq_true'] at shown
  obtain ⟨count, rfl⟩ := earlier.mem_rowsOf_chunk.mp inside
  have size : earlier.rowCacheChunkSize = canvas.rowCacheChunkSize := by
    rw [rowCacheChunkSize, rowCacheChunkSize, rows]
  have mark := earlier.exists_mark_iff.mpr ⟨earlier.mem_rowsOf.mpr ⟨count, from_, to_⟩,
    faithful.visible earlier before index count shown⟩
  rw [same, canvas.exists_mark_iff, canvas.mem_rowsOf] at mark
  rw [size]
  exact mark.1.2

/-- Bands that leave the same marks have the same chunks. -/
theorem place_eq_of_marks (faithful : Faithful inks hashes frames) (before : earlier ∈ frames)
    (here : canvas ∈ frames) (rows : earlier.snapshot.rows = canvas.snapshot.rows)
    {band band' : Band}
    (drawn : band.Drawn (earlier.chunkHasArtifacts (earlier.buildArtifacts inks)))
    (drawn' : band'.Drawn (canvas.chunkHasArtifacts (canvas.buildArtifacts inks)))
    (same : (earlier.drawBand (earlier.buildArtifacts inks) band).marks =
      (canvas.drawBand (canvas.buildArtifacts inks) band').marks) : band.place = band'.place := by
  have nonempty := drawn.nonempty
  have nonempty' := drawn'.nonempty
  have first := chunk_of_marks faithful before rows drawn same (Nat.le_refl _) nonempty
  have first' := chunk_of_marks faithful here rows.symm drawn' same.symm (Nat.le_refl _) nonempty'
  have last := chunk_of_marks faithful before rows drawn same (Nat.le_sub_one_of_lt nonempty)
    (Nat.sub_one_lt_of_lt nonempty)
  have last' := chunk_of_marks faithful here rows.symm drawn' same.symm
    (Nat.le_sub_one_of_lt nonempty') (Nat.sub_one_lt_of_lt nonempty')
  have start : band.start = band'.start := by omega
  have stop : band.stop = band'.stop := by omega
  rw [Band.place, Band.place, start, stop]

theorem marks_eq_of_place (faithful : Faithful inks hashes frames) (before : earlier ∈ frames)
    (here : canvas ∈ frames) (style : hashes.style earlier = hashes.style canvas)
    {band band' : Band} (place : band.place = band'.place)
    (clean : ∀ index ∈ canvas.rowsOf band'.start band'.stop,
      earlier.rowRevisionValue hashes index = canvas.rowRevisionValue hashes index) :
    earlier.drawBand (earlier.buildArtifacts inks) band =
      canvas.drawBand (canvas.buildArtifacts inks) band' := by
  obtain ⟨look, text⟩ := faithful.looks earlier before canvas here style
  obtain ⟨count, rows⟩ := faithful.grids earlier before canvas here style
  have size : earlier.rowCacheChunkSize = canvas.rowCacheChunkSize := by
    rw [rowCacheChunkSize, rowCacheChunkSize, rows]
  have same : earlier.rowsOf band'.start band'.stop = canvas.rowsOf band'.start band'.stop := by
    rw [rowsOf, rowsOf, size, count]
  rw [earlier.drawBand_place place, drawBand, drawBand, look, same]
  congr 1
  refine List.flatMap_congr fun index inside => ?_
  have built := faithful.revisions earlier before canvas here style index
    (count ▸ (canvas.mem_rowsOf.mp inside).1) (clean index inside)
  rw [built, drawRow, drawRow, text]

/-- What the cache of a place holds is drawn in place of a clean band. -/
theorem Shows.drawn_iff (shows : earlier.Shows lib inks hashes state)
    (documented : lib.Documented) (place : Nat) (band : Band) (fresh : Geometry Color Look) :
    (lib.draw (canvas.bandCache lib hashes state place band) canvas.bounds fresh).1 = fresh ↔
      (earlier.bounds = canvas.bounds → hashes.style earlier = hashes.style canvas →
        band.dirty = false → ∀ before, (earlier.places inks)[place]? = some before →
          earlier.drawBand (earlier.buildArtifacts inks) before = fresh) := by
  by_cases style : hashes.style earlier = hashes.style canvas
  swap
  · have changed : state.rowStyleFingerprint ≠ some (hashes.style canvas) := by
      rw [shows.style]
      exact fun same => style (Option.some.inj same)
    exact iff_of_true (empty_of_style documented changed place band _ _)
      fun _ same => absurd same style
  cases dirty : band.dirty with
  | true => exact iff_of_true (empty_of_dirty documented place dirty _ _) (by simp)
  | false =>
      have cache : canvas.bandCache lib hashes state place band =
          state.rowBandCaches.getD place lib.new := by
        rw [bandCache, shows.style, style]
        simp [dirty]
      rw [cache, List.getD_eq_getElem?_getD]
      cases held : (earlier.places inks)[place]? with
      | none =>
          have missing : state.rowBandCaches[place]? = none := by
            rw [List.getElem?_eq_none_iff, shows.caches.length_eq, plain, List.length_map]
            exact List.getElem?_eq_none_iff.mp held
          rw [missing]
          exact iff_of_true (documented.new _ _) (by simp)
      | some before =>
          have inPlain : (earlier.plain inks)[place]? =
              some (earlier.drawBand (earlier.buildArtifacts inks) before) := by
            rw [plain, List.getElem?_map, held, Option.map_some]
          obtain ⟨cache, found, holds⟩ := shows.held inPlain
          rw [found, Option.getD_some]
          by_cases bounds : earlier.bounds = canvas.bounds
          · rw [← bounds, holds.again documented]
            simp [bounds, style]
          · rw [holds.resized documented bounds]
            exact iff_of_true rfl fun same => absurd same bounds

theorem dirty_of_mem_places {band : Band} (member : band ∈ canvas.places inks) :
    band.dirty = false := by
  rw [← Bool.not_eq_true, (marked_of_mem_bandsFrom member).iff]
  rintro ⟨_, -, -, set⟩
  cases set

/-- The bands of a frame are those of `places`, apart from what is dirty. -/
theorem getElem?_bands {dirty : Nat → Bool} {place : Nat} {band : Band} :
    (canvas.places inks)[place]? = some band ↔ band.dirty = false ∧
      ∃ marked, (canvas.bands (canvas.buildArtifacts inks) dirty)[place]? = some marked ∧
        marked.place = band.place := by
  have same : (canvas.places inks).map Band.place =
      (canvas.bands (canvas.buildArtifacts inks) dirty).map Band.place :=
    place_bandsFrom canvas.chunkCount 0 rfl
  have at_ := congrArg (fun places => places[place]?) same
  simp only [List.getElem?_map] at at_
  constructor
  · intro here
    rw [here] at at_
    exact ⟨dirty_of_mem_places (List.mem_of_getElem? here), Option.map_eq_some_iff.mp at_.symm⟩
  · rintro ⟨clean, marked, there, place_⟩
    rw [there] at at_
    obtain ⟨found, here, same⟩ := Option.map_eq_some_iff.mp at_
    have foundClean := dirty_of_mem_places (List.mem_of_getElem? here)
    rw [here, Band.eq_of_place (foundClean.trans clean.symm) (same.trans place_)]

/-- A frame is drawn as it is exactly if its clean bands keep their places. -/
theorem Shows.draw_eq_plain_iff (shows : earlier.Shows lib inks hashes state)
    (documented : lib.Documented) (faithful : Faithful inks hashes frames)
    (before : earlier ∈ frames) (here : canvas ∈ frames) :
    (canvas.draw lib inks hashes state).1 = canvas.plain inks ↔
      KeepsPlaces inks hashes earlier canvas := by
  rw [draw_geometries fun index => shows.artifactsAfter faithful before here,
    plain_eq_bands (canvas.chunkDirty hashes state), List.mapIdx_eq_iff]
  constructor
  · intro drawn bounds style place held band heldAt bandAt clean
    obtain ⟨bandClean, marked, there, same⟩ := getElem?_bands.mp bandAt
    obtain ⟨start, stop⟩ := Prod.mk.inj same
    have member := List.mem_of_getElem? there
    have atPlace := drawn place
    rw [List.getElem?_map, there, Option.map_some, Option.map_some, Option.some.injEq, eq_comm,
      shows.drawn_iff documented] at atPlace
    have markedClean := (shows.clean_iff faithful before here style member).mpr
      (by rwa [start, stop])
    have marks := congrArg Geometry.marks (atPlace bounds style markedClean held heldAt)
    have placed := place_eq_of_marks faithful before here
      (faithful.grids earlier before canvas here style).2
      (drawn_of_mem_bandsFrom (List.mem_of_getElem? heldAt)) (drawn_of_mem_bandsFrom member) marks
    have heldClean := dirty_of_mem_places (List.mem_of_getElem? heldAt)
    exact Band.eq_of_place (heldClean.trans bandClean.symm) (placed.trans same)
  · intro keeps place
    rw [List.getElem?_map]
    cases there : (canvas.bands (canvas.buildArtifacts inks)
        (canvas.chunkDirty hashes state))[place]? with
    | none => rfl
    | some band =>
        have member := List.mem_of_getElem? there
        rw [Option.map_some, Option.map_some, Option.some.injEq, eq_comm,
          shows.drawn_iff documented]
        intro bounds style clean held heldAt
        have unchanged := (shows.clean_iff faithful before here style member).mp clean
        have bandAt : (canvas.places inks)[place]? = some band :=
          getElem?_bands.mpr ⟨clean, band, there, rfl⟩
        have same := keeps bounds style place held band heldAt bandAt unchanged
        exact marks_eq_of_place faithful before here style (congrArg Band.place same) unchanged

theorem drawAll_eq_plain_iff {rest : List (TerminalCanvas Alpha Color Look Bounds Style)}
    (documented : lib.Documented) (faithful : Faithful inks hashes frames)
    (before : earlier ∈ frames) (here : ∀ canvas ∈ rest, canvas ∈ frames)
    (shows : earlier.Shows lib inks hashes state) :
    drawAll lib inks hashes state rest = rest.map (plain inks) ↔
      (earlier :: rest).IsChain (KeepsPlaces inks hashes) := by
  induction rest generalizing earlier state with
  | nil => simp [drawAll]
  | cons canvas rest ih =>
      have member := here canvas List.mem_cons_self
      have later : ∀ other ∈ rest, other ∈ frames := fun other among =>
        here other (List.mem_cons_of_mem _ among)
      rw [drawAll, List.map_cons, List.cons.injEq, List.isChain_cons_cons,
        shows.draw_eq_plain_iff documented faithful before member]
      refine and_congr_right fun keeps => ?_
      have drawn := (shows.draw_eq_plain_iff documented faithful before member).mpr keeps
      exact ih member later
        (Shows.of_draw (fun index => shows.artifactsAfter faithful before member) drawn)

/-- Nine rows of one cell, of which the first has a revision and a cell and the last is colored. -/
def nineRows (revision : UInt64) (first : CellSnapshot) :
    TerminalCanvas Unit RgbColor Unit Unit Unit where
  snapshot :=
    { cols := 1
      rows := 9
      title := ""
      pwd := ""
      cursor := ⟨false, false, 0, 0, ()⟩
      rowsData := [first] :: (List.replicate 7 [{}] ++ [[{ bgIsDefault := false }]])
      rowRevisions := revision :: List.replicate 8 1
      colors := ⟨⟨0, 0, 0⟩, ⟨0, 0, 0⟩, ⟨0, 0, 0⟩, false⟩ }
  look := ()
  bounds := ()
  backgroundOpacity := ()
  backgroundOpacityCells := false
  fontFamilies := []
  urlColor := none
  paintText := false

/-- The first row loses its color, and the band of the last one takes its place. -/
def erasedFrames : List (TerminalCanvas Unit RgbColor Unit Unit Unit) :=
  [nineRows 1 { bgIsDefault := false }, nineRows 2 {}]

end TerminalCanvas

end Runs

end Boo.Client.RowBands
