/-
What a chart shows.

The rows of a chart are read off its drawing: they are the lines with a cell of a bar in them,
and each is a label and a bar between the strokes of the frame (`barRows_chart`). A bar is as
long as its kind's share of the largest count, rounded to a nearest whole number. Rounding with
halves going to the even neighbour never swaps two numbers (`IsNearest.le_of_le`), and from that
the bounds and the order of the bars follow; the least length of one cell is below all others.
-/
import Famix.Display.Screens
import Famix.Proofs.Lines
import Famix.Proofs.Tallies
import Mathlib.Algebra.Order.Field.Basic
import Mathlib.Algebra.Order.Ring.Abs
import Mathlib.Tactic.FieldSimp
import Mathlib.Tactic.Linarith

set_option autoImplicit false

namespace Famix.Display

/-! ## Rounding -/

/-- A whole number is as near to an exact one as whole numbers are, and an even one if it is half
a unit away. -/
def IsNearest (whole : Nat) (exact : ℚ) : Prop :=
  |whole - exact| ≤ 1 / 2 ∧ (|whole - exact| = 1 / 2 → Even whole)

/-- A whole number is nearest to itself, and at no distance there is nothing to be even. -/
theorem isNearest_natCast (whole : Nat) : IsNearest whole whole := by
  rw [IsNearest, sub_self, abs_zero]
  norm_num

/-- For a quotient, whole multiples of the denominator are compared with the numerator. -/
theorem isNearest_div {whole num den : Nat} (hden : 0 < den)
    (hlow : 2 * (whole * den) ≤ 2 * num + den) (hhigh : 2 * num ≤ 2 * (whole * den) + den)
    (heven : 2 * (whole * den) = 2 * num + den ∨ 2 * num = 2 * (whole * den) + den →
      Even whole) : IsNearest whole (num / den) := by
  have hpos : (0 : ℚ) < den := by exact_mod_cast hden
  have hdist : (whole : ℚ) - num / den = (whole * den - num) / den := by field_simp
  have hlow' : 2 * ((whole : ℚ) * den) ≤ 2 * num + den := by exact_mod_cast hlow
  have hhigh' : 2 * (num : ℚ) ≤ 2 * (whole * den) + den := by exact_mod_cast hhigh
  rw [IsNearest, hdist, abs_div, abs_of_pos hpos]
  constructor
  · rw [div_le_iff₀ hpos, abs_le]
    exact ⟨by linarith, by linarith⟩
  · intro hhalf
    rw [div_eq_iff hpos.ne', abs_eq (by linarith)] at hhalf
    refine heven (hhalf.imp (fun h => ?_) fun h => ?_)
    · have heq : 2 * ((whole : ℚ) * den) = 2 * num + den := by linarith
      exact_mod_cast heq
    · have heq : 2 * (num : ℚ) = 2 * (whole * den) + den := by linarith
      exact_mod_cast heq

/-- Rounding with halves to the even neighbour gives a nearest whole number. -/
theorem isNearest_roundHalfEven (num : Nat) {den : Nat} (hden : 0 < den) :
    IsNearest (roundHalfEven num den) (num / den) := by
  have hnum := Nat.div_add_mod' num den
  have hrest := Nat.mod_lt num hden
  -- with the products named, what is to be compared is linear
  have hup : (num / den + 1) * den = num / den * den + den := Nat.succ_mul _ _
  rw [roundHalfEven]
  split_ifs with hbelow habove heven
  · exact isNearest_div hden (by omega) (by omega) (by omega)
  · exact isNearest_div hden (by omega) (by omega) (by omega)
  · exact isNearest_div hden (by omega) (by omega) fun _ => Nat.even_iff.mpr heven
  · refine isNearest_div hden (by omega) (by omega) fun _ => Nat.even_iff.mpr ?_
    omega

/-- Rounding keeps the order: where two numbers could be swapped, both are halves between the
same two neighbours, of which only one is even. -/
theorem IsNearest.le_of_le {m n : Nat} {q r : ℚ} (hm : IsNearest m q) (hn : IsNearest n r)
    (h : q ≤ r) : m ≤ n := by
  by_contra hlt
  have hle : (n : ℚ) + 1 ≤ m := by exact_mod_cast Nat.lt_of_not_le hlt
  have hlow := (abs_le.mp hm.1).2
  have hhigh := (abs_le.mp hn.1).1
  -- from `n` up to `m` is a whole unit at least, and half a unit is all that either may be away
  have hmhalf : |(m : ℚ) - q| = 1 / 2 := by
    have hdist : (m : ℚ) - q = 1 / 2 := by linarith
    rw [hdist]
    norm_num
  have hnhalf : |(n : ℚ) - r| = 1 / 2 := by
    have hdist : (n : ℚ) - r = -(1 / 2) := by linarith
    rw [hdist]
    norm_num
  have hsucc : m = n + 1 := by
    have heq : (m : ℚ) = n + 1 := by linarith
    exact_mod_cast heq
  have heven := hm.2 hmhalf
  rw [hsucc, Nat.even_add_one] at heven
  exact heven (hn.2 hnhalf)

/-! ## Lengths of bars -/

/-- The length that the bar of a count should have: its share of the longest bar. -/
def exactLength (count peak : Nat) : ℚ := barWidth * count / peak

section

variable {count other peak : Nat}

/-- Before it is made one cell at least, a bar is a nearest whole number of cells long. -/
theorem exists_barLength_eq (count : Nat) (hpeak : 0 < peak) :
    ∃ whole, IsNearest whole (exactLength count peak) ∧ barLength count peak = max 1 whole := by
  rw [exactLength, ← Nat.cast_mul]
  exact ⟨_, isNearest_roundHalfEven _ hpeak, rfl⟩

/-- No bar is empty. -/
theorem one_le_barLength (count peak : Nat) : 1 ≤ barLength count peak := Nat.le_max_left 1 _

/-- A larger count has no shorter bar. -/
theorem barLength_le_barLength (hpeak : 0 < peak) (h : count ≤ other) :
    barLength count peak ≤ barLength other peak := by
  obtain ⟨whole, hwhole, hlength⟩ := exists_barLength_eq count hpeak
  obtain ⟨longer, hlonger, hother⟩ := exists_barLength_eq other hpeak
  have hexact : exactLength count peak ≤ exactLength other peak := by
    unfold exactLength
    gcongr
  rw [hlength, hother]
  exact max_le_max_left 1 (hwhole.le_of_le hlonger hexact)

/-- The bar of the largest count is not rounded. -/
theorem barLength_self (hpeak : 0 < peak) : barLength peak peak = barWidth := by
  obtain ⟨whole, hwhole, hlength⟩ := exists_barLength_eq peak hpeak
  have hpos : (peak : ℚ) ≠ 0 := by exact_mod_cast hpeak.ne'
  rw [exactLength, mul_div_cancel_right₀ _ hpos] at hwhole
  have hwidth : whole = barWidth :=
    le_antisymm (hwhole.le_of_le (isNearest_natCast _) le_rfl)
      ((isNearest_natCast _).le_of_le hwhole le_rfl)
  rw [hlength, hwidth]
  rfl

/-- No bar is longer than the width for bars. -/
theorem barLength_le_barWidth (hpeak : 0 < peak) (h : count ≤ peak) :
    barLength count peak ≤ barWidth :=
  barLength_self hpeak ▸ barLength_le_barLength hpeak h

/-- A bar of more than one cell was not made longer. -/
theorem abs_barLength_sub_le (hpeak : 0 < peak) (h : 2 ≤ barLength count peak) :
    |barLength count peak - exactLength count peak| ≤ 1 / 2 := by
  obtain ⟨whole, hwhole, hlength⟩ := exists_barLength_eq count hpeak
  -- a length that the bound of one cell decides is one
  have heq : barLength count peak = whole := by omega
  rw [heq]
  exact hwhole.1

end

/-! ## Panels -/

/-- A line between the strokes of a frame. -/
def framed (columns : Nat) (line : Text) : Text :=
  "│ ".toList ++ padRight columns line ++ " │".toList

/-- The lower edge of a panel. -/
def lowerEdge (columns : Nat) : Text := "╰".toList ++ stroke (columns + 2) ++ "╯".toList

/-- A panel without a title is its edges with the framed lines between them. -/
theorem frame_none (columns : Nat) (content : List Text) :
    frame none columns content =
      typed (upperEdge columns none :: content.map (framed columns) ++ [lowerEdge columns]) := by
  have hright : " │\n".toList = " │".toList ++ ['\n'] := rfl
  have hlower : "╯\n".toList = "╯".toList ++ ['\n'] := rfl
  rw [frame, typed, List.flatMap_append, List.flatMap_cons, List.flatMap_map, hright, hlower]
  simp [framed, lowerEdge]

/-! ## Rows with bars -/

/-- Whether there is a cell of a bar in a row. -/
def hasBar (row : Text) : Bool := row.contains '█'

/-- The rows of a drawing that a bar is in. -/
def barRows (drawing : Text) : List Text := (Text.lines drawing).filter hasBar

/-- A row has a bar in it if it has one cell of a bar. -/
@[simp] theorem hasBar_iff {row : Text} : hasBar row = true ↔ '█' ∈ row := List.contains_iff_mem

/-- A row is a label and a bar of so many cells, with blanks around them and the strokes of the
frame at both ends. -/
def IsBarRow (entry : Kind × Nat) (length : Nat) (row : Text) : Prop :=
  ∃ before between behind,
    row = ['│'] ++ blanks before ++ Tally.label entry ++ blanks between ++ bar length ++
      blanks behind ++ ['│']

/-- The line of a chart for a kind, in columns of the given widths. -/
def chartRow (labelWidth barColumns : Nat) (entry : Kind × Nat) (length : Nat) : Text :=
  [' '] ++ padLeft labelWidth (Tally.label entry) ++ "  ".toList ++
    padRight barColumns (bar length) ++ [' ']

/-- The content of a chart is its title and a row for each kind, all in columns of the same widths.
-/
theorem chartLines_eq (tally : Tally) :
    let labelWidth := widest tally.labels
    let barColumns := widest ((barLengths tally).map bar)
    chartLines tally =
      centred (labelWidth + barColumns + 4) "Famix Chart".toList :: tally.map fun entry =>
        chartRow labelWidth barColumns entry (barLength entry.2 tally.peak) := by
  intro labelWidth barColumns
  -- labels and bars are both listed along the tally, so they meet kind by kind
  have hbars : (barLengths tally).map bar =
      tally.map fun entry => bar (barLength entry.2 tally.peak) := by
    rw [barLengths, List.map_map]
    rfl
  have hrows : ∀ row : Text → Text → Text,
      List.zipWith row tally.labels ((barLengths tally).map bar) =
        tally.map fun entry => row (Tally.label entry) (bar (barLength entry.2 tally.peak)) := by
    intro row
    rw [hbars, Tally.labels, List.zipWith_map, List.zipWith_self]
  rw [chartLines, hrows]
  rfl

/-- Blanks behind blanks are blanks. -/
theorem blanks_add (m n : Nat) : blanks (m + n) = blanks m ++ blanks n :=
  List.replicate_append_replicate.symm

/-- A line is filled up behind its text. -/
theorem exists_padRight_eq (columns : Nat) (line : Text) :
    ∃ count, padRight columns line = line ++ blanks count := ⟨_, rfl⟩

/-- A line is filled up in front of its text. -/
theorem exists_padLeft_eq (columns : Nat) (line : Text) :
    ∃ count, padLeft columns line = blanks count ++ line := ⟨_, rfl⟩

/-- A framed row is a label and a bar of the given length, with blanks around them. -/
theorem isBarRow_framed (columns labelWidth barColumns : Nat) (entry : Kind × Nat)
    (length : Nat) :
    IsBarRow entry length (framed columns (chartRow labelWidth barColumns entry length)) := by
  obtain ⟨before, hbefore⟩ := exists_padLeft_eq labelWidth (Tally.label entry)
  obtain ⟨behind, hbehind⟩ := exists_padRight_eq barColumns (bar length)
  obtain ⟨spare, hspare⟩ :=
    exists_padRight_eq columns (chartRow labelWidth barColumns entry length)
  have hleft : "│ ".toList = ['│'] ++ blanks 1 := rfl
  have hright : " │".toList = blanks 1 ++ ['│'] := rfl
  have hbetween : "  ".toList = blanks 2 := rfl
  have hblank : [' '] = blanks 1 := rfl
  refine ⟨1 + 1 + before, 2, behind + 1 + spare + 1, ?_⟩
  rw [framed, hspare, chartRow, hbefore, hbehind, hleft, hright, hbetween, hblank]
  simp only [blanks_add, List.append_assoc]

/-- A label is on one line. -/
theorem newline_not_mem_label (entry : Kind × Nat) : '\n' ∉ Tally.label entry := by
  obtain ⟨kind, count⟩ := entry
  have hname : '\n' ∉ kind.name := by cases kind <;> decide
  have hcount : '\n' ∉ Text.ofNat count :=
    fun h => absurd (Text.isDigit_of_mem_ofNat h) (by decide)
  simp [Tally.label, hname, hcount]

/-- A row with a bar is on one line. -/
theorem IsBarRow.newline_not_mem {entry : Kind × Nat} {length : Nat} {row : Text}
    (h : IsBarRow entry length row) : '\n' ∉ row := by
  obtain ⟨before, between, behind, rfl⟩ := h
  simp [blanks, bar, List.mem_replicate, newline_not_mem_label]

/-- A row with a bar of one cell or more has a cell of a bar in it. -/
theorem IsBarRow.hasBar {entry : Kind × Nat} {length : Nat} {row : Text}
    (h : IsBarRow entry length row) (hlength : 1 ≤ length) : hasBar row = true := by
  obtain ⟨before, between, behind, rfl⟩ := h
  have hbar : '█' ∈ bar length := List.mem_replicate.mpr ⟨by omega, rfl⟩
  simp [hbar]

/-- The upper edge of a panel without a title is one stroke between two corners. -/
theorem upperEdge_none (columns : Nat) :
    upperEdge columns none = "╭".toList ++ stroke (columns + 2) ++ "╮".toList := rfl

/-- The edges are of corners and strokes only. -/
theorem not_mem_edges {c : Char} (hc : c ∉ "╭╮╰╯─".toList) (columns : Nat) :
    c ∉ upperEdge columns none ∧ c ∉ lowerEdge columns := by
  have hparts : c ≠ '╭' ∧ c ≠ '╮' ∧ c ≠ '╰' ∧ c ≠ '╯' ∧ c ≠ '─' := by simpa using hc
  rw [upperEdge_none, lowerEdge, stroke]
  simp [hparts]

/-- The framed title is of its own letters, blanks and the strokes at the sides only. -/
theorem not_mem_title {c : Char} (hc : c ∉ "│ Famix Chart".toList) (columns width : Nat) :
    c ∉ framed columns (centred width "Famix Chart".toList) := by
  intro h
  have hright : " │".toList = "│ ".toList.reverse := rfl
  simp only [framed, padRight, centred, blanks, hright, List.mem_append, List.mem_reverse,
    List.mem_replicate] at h
  have hparts : c ∈ "│ ".toList ∨ c = ' ' ∨ c ∈ "Famix Chart".toList := by tauto
  rcases hparts with h | rfl | h
  · exact hc (List.mem_append_left "Famix Chart".toList h)
  · exact hc (by decide)
  · exact hc (List.mem_append_right "│ ".toList h)

/-- The rows with bars are the lines of the content that have bars in them. -/
theorem barRows_frame_none {columns : Nat} {content : List Text}
    (h : ∀ line ∈ content, '\n' ∉ framed columns line) :
    barRows (frame none columns content) =
      (content.map (framed columns)).filter hasBar := by
  have hnewline := not_mem_edges (c := '\n') (by decide) columns
  have hcell := not_mem_edges (c := '█') (by decide) columns
  have hlines : ∀ row ∈ upperEdge columns none :: content.map (framed columns) ++
      [lowerEdge columns], '\n' ∉ row := by
    intro row hrow
    rw [List.mem_append, List.mem_cons, List.mem_map, List.mem_singleton] at hrow
    rcases hrow with (rfl | ⟨line, hline, rfl⟩) | rfl
    · exact hnewline.1
    · exact h line hline
    · exact hnewline.2
  rw [barRows, frame_none, lines_typed hlines]
  simp [hcell]

/-- The rows with bars of a framed chart are those of its kinds, in the order of the tally. -/
theorem barRows_frame_chartLines (columns : Nat) (tally : Tally) :
    List.Forall₂ (fun entry row => IsBarRow entry (barLength entry.2 tally.peak) row) tally
      (barRows (frame none columns (chartLines tally))) := by
  let row : Kind × Nat → Text := fun entry =>
    framed columns (chartRow (widest tally.labels) (widest ((barLengths tally).map bar)) entry
      (barLength entry.2 tally.peak))
  have hrow : ∀ entry, IsBarRow entry (barLength entry.2 tally.peak) (row entry) := fun entry =>
    isBarRow_framed _ _ _ entry _
  have hnewline : ∀ line ∈ chartLines tally, '\n' ∉ framed columns line := by
    intro line hline
    rw [chartLines_eq, List.mem_cons, List.mem_map] at hline
    rcases hline with rfl | ⟨entry, -, rfl⟩
    · exact not_mem_title (by decide) columns _
    · exact (hrow entry).newline_not_mem
  have hrows : barRows (frame none columns (chartLines tally)) = tally.map row := by
    -- of all lines of the content only the title has no bar in it
    rw [barRows_frame_none hnewline, chartLines_eq, List.map_cons, List.map_map,
      List.filter_cons_of_neg (mt hasBar_iff.mp (not_mem_title (by decide) columns _))]
    refine List.filter_eq_self.mpr fun other hother => ?_
    obtain ⟨entry, -, rfl⟩ := List.mem_map.mp hother
    exact (hrow entry).hasBar (one_le_barLength _ _)
  rw [hrows, List.forall₂_map_right_iff, List.forall₂_same]
  exact fun entry _ => hrow entry

/-- There is one row with a bar for each kind, in the order of the tally. -/
theorem barRows_chart (entities : List Entity) :
    let tally := Tally.ofEntities entities
    List.Forall₂ (fun entry row => IsBarRow entry (barLength entry.2 tally.peak) row) tally
      (barRows (chart entities)) := by
  intro tally
  have hchart : chart entities = if tally.isEmpty then "Nothing to chart.\n".toList
      else frame none (widest (chartLines tally)) (chartLines tally) := rfl
  rw [hchart]
  split_ifs with hempty
  · rw [List.isEmpty_iff.mp hempty]
    exact .nil
  · exact barRows_frame_chartLines _ tally

/-! ## What a chart says of the records -/

/-- What makes a drawing and the counts that go with it a faithful account of records, if the bar
of a kind is `length kind` cells long. -/
structure IsFaithful (drawing : Text) (tally : Tally) (length : Kind → Nat)
    (entities : List Entity) : Prop where
  /-- There is one bar for each kind that occurs, in the order of first occurrence. -/
  rows : List.Forall₂
    (fun kind row => IsBarRow (kind, (kinds entities).count kind) (length kind) row)
    (kinds entities).eraseDups (barRows drawing)
  counts : tally = (kinds entities).eraseDups.map fun kind => (kind, (kinds entities).count kind)
  total : tally.total = entities.length
  peak : IsGreatest {count | ∃ kind ∈ kinds entities, (kinds entities).count kind = count}
    tally.peak
  /-- A bar is as long as its exact length rounded, halves going to the even neighbour, but not
  shorter than one cell. -/
  rounded : ∀ kind ∈ kinds entities, ∃ whole,
    IsNearest whole (exactLength ((kinds entities).count kind) tally.peak) ∧
      length kind = max 1 whole
  bounded : ∀ kind ∈ kinds entities, 1 ≤ length kind ∧ length kind ≤ barWidth
  longest : ∀ kind ∈ kinds entities, (kinds entities).count kind = tally.peak →
    length kind = barWidth
  ordered : ∀ kind ∈ kinds entities, ∀ other ∈ kinds entities,
    (kinds entities).count kind ≤ (kinds entities).count other → length kind ≤ length other
  near : ∀ kind ∈ kinds entities, 2 ≤ length kind →
    |length kind - exactLength ((kinds entities).count kind) tally.peak| ≤ 1 / 2

/-- The chart of records is a faithful account of them, and the counts that go with it depend on
nothing but how often each kind occurs. -/
theorem chart_isFaithful {entities : List Entity} (h : entities ≠ []) :
    (∃ length, IsFaithful (chart entities) (Tally.ofEntities entities) length entities) ∧
      ∀ others, (kinds others).Perm (kinds entities) →
        (Tally.ofEntities others).Perm (Tally.ofEntities entities) := by
  refine ⟨⟨fun kind => barLength ((kinds entities).count kind) (Tally.ofEntities entities).peak,
    ?_⟩, fun others => Tally.perm_ofEntities⟩
  obtain ⟨most, hmost, hcount⟩ := Tally.exists_count_eq_peak h
  have hpeak : 0 < (Tally.ofEntities entities).peak :=
    hcount ▸ List.count_pos_iff.mpr hmost
  constructor
  case rows =>
    have hrows := barRows_chart entities
    dsimp only at hrows
    rw [Tally.ofEntities_eq, List.forall₂_map_left_iff, ← Tally.ofEntities_eq] at hrows
    exact hrows
  case counts => exact Tally.ofEntities_eq entities
  case total => exact Tally.total_ofEntities entities
  case peak =>
    refine ⟨⟨most, hmost, hcount⟩, ?_⟩
    rintro _ ⟨kind, hkind, rfl⟩
    exact Tally.count_le_peak hkind
  case rounded => exact fun kind _ => exists_barLength_eq _ hpeak
  case bounded =>
    exact fun kind hkind =>
      ⟨one_le_barLength _ _, barLength_le_barWidth hpeak (Tally.count_le_peak hkind)⟩
  case longest =>
    intro kind _ hkind
    rw [hkind]
    exact barLength_self hpeak
  case ordered => exact fun kind _ other _ => barLength_le_barLength hpeak
  case near => exact fun kind _ => abs_barLength_sub_le hpeak

/-- Sixteen attributes, whose bar is the longest, and one inheritance, whose bar of two and a half
cells is rounded to two. -/
theorem chart_isFaithful_of_tie :
    let entities := List.replicate 16 (Entity.attributeRecord "size".toList 3) ++
      [.inheritanceRecord 4 3]
    entities ≠ [] ∧ barLengths (Tally.ofEntities entities) = [40, 2] ∧
      (∃ length, IsFaithful (chart entities) (Tally.ofEntities entities) length entities) ∧
      ∀ others, (kinds others).Perm (kinds entities) →
        (Tally.ofEntities others).Perm (Tally.ofEntities entities) := by
  intro entities
  have hne : entities ≠ [] := by decide
  exact ⟨hne, by decide, chart_isFaithful hne⟩

end Famix.Display
