/-
Reading line by line comes to the same as reading the whole text.

A session reads its buffer again after every line and hands over at the first success. That
it does not hand over too early, or something that later lines would have changed, is due to
the matches of the grammar: what has matched keeps its records whatever is typed behind it
(`readModel_append`), so the prefixes of the lines that yield records all yield the same.
-/
import Famix.Proofs.Feeding
import Famix.Proofs.Totality
import Famix.Session.Model
import Mathlib.Data.Nat.Find
import Mathlib.Order.Bounds.Basic

set_option autoImplicit false

namespace Famix

open Grammar Engine

/-- Lines whose runs of digits fit make a text whose runs of digits fit, since the newlines
keep them apart. -/
theorem digitRunsFit_typed {lines : List Text} (h : ∀ line ∈ lines, DigitRunsFit line) :
    DigitRunsFit (typed lines) := by
  induction lines with
  | nil => exact digitRunsFit_of_length_le (Nat.zero_le _)
  | cons line lines ih =>
    have hrest := ih fun other hother => h other (List.mem_cons_of_mem line hother)
    have htyped : typed (line :: lines) = line ++ '\n' :: typed lines := by
      simp [typed]
    rw [htyped]
    exact (h line List.mem_cons_self).append_cons hrest (by decide)

/-- The lines, as they are typed, yield a record. -/
def Yields (lines : List Text) : Prop :=
  ∃ reading, readModel (typed lines) = .ok reading ∧ reading.items ≠ []

/-- No lines yield no record. -/
theorem not_yields_nil : ¬ Yields [] := by
  rintro ⟨reading, hread, hne⟩
  obtain ⟨items, matched, remainder⟩ := reading
  obtain rfl : matched = true := Parser.matched_of_items_ne_nil hread hne
  obtain ⟨c, htyped, hc⟩ := readModel_eq_matched_iff.mp hread
  obtain ⟨t, rfl, -⟩ := modelText_iff.mp hc
  cases htyped

/-- What the first lines yield, all lines yield, with the lines behind in the remainder. -/
theorem readModel_typed_of_take {lines : List Text} {count : Nat} {reading : Reading Entity}
    (hread : readModel (typed (lines.take count)) = .ok reading) (hne : reading.items ≠ []) :
    readModel (typed lines) =
      .ok ⟨reading.items, true, reading.remainder ++ typed (lines.drop count)⟩ := by
  obtain ⟨items, matched, remainder⟩ := reading
  obtain rfl : matched = true := Parser.matched_of_items_ne_nil hread hne
  have happend := readModel_append hread (typed (lines.drop count))
  rwa [← typed_append, List.take_append_drop] at happend

/-- Lines of which no prefix yields a record are taken in without an outcome. -/
theorem feedAll_model_waiting {session : Session Entity} {lines : List Text}
    (hbuffer : session.buffer = [])
    (hcommand : ∀ line ∈ lines, Command.ofLine? line = none)
    (hfit : ∀ line ∈ lines, DigitRunsFit line)
    (hnone : ∀ count ≤ lines.length, ¬ Yields (lines.take count)) :
    (modelEngine.feedAll session lines).1 = session.takeIn lines ∧
      (modelEngine.feedAll session lines).2.length = lines.length ∧
      ∀ outcome ∈ (modelEngine.feedAll session lines).2, IsWaiting outcome := by
  refine modelEngine.feedAll_waiting session lines hcommand fun count _ hcount => ?_
  rw [hbuffer, List.nil_append]
  obtain ⟨reading, hread⟩ := exists_readModel_eq_ok
    (digitRunsFit_typed fun line hline => hfit line (List.mem_of_mem_take hline))
  refine ⟨reading, hread, ?_⟩
  by_contra hne
  exact hnone count hcount ⟨reading, hread, hne⟩

/-- The shortest prefix of the lines that yields a record completes the first round with its
last line. -/
theorem firstRound_of_isLeast {session : Session Entity} {lines : List Text} {count : Nat}
    (hbuffer : session.buffer = [])
    (hcommand : ∀ line ∈ lines, Command.ofLine? line = none)
    (hfit : ∀ line ∈ lines, DigitRunsFit line)
    (hcount : IsLeast {n | Yields (lines.take n)} count) (hle : count ≤ lines.length) :
    ∃ waiting reading after,
      modelEngine.FirstRound session lines count waiting ⟨none, reading, true⟩ after ∧
        readModel (typed (lines.take count)) = .ok reading ∧ reading.items ≠ [] := by
  obtain ⟨⟨reading, hread, hne⟩, hleast⟩ := hcount
  obtain ⟨before, rfl⟩ : ∃ before, count = before + 1 := by
    cases count with
    | zero => exact absurd ⟨reading, hread, hne⟩ not_yields_nil
    | succ before => exact ⟨before, rfl⟩
  -- the lines before the last one complete no round, by the choice of the prefix
  have hsub : ∀ line ∈ lines.take before, line ∈ lines := fun line => List.mem_of_mem_take
  have hnone : ∀ n ≤ (lines.take before).length, ¬ Yields ((lines.take before).take n) := by
    intro n hn hyields
    rw [List.length_take] at hn
    rw [List.take_take, Nat.min_eq_left (by omega)] at hyields
    have := hleast hyields
    omega
  obtain ⟨hsession, hlength, hwaiting⟩ := feedAll_model_waiting hbuffer
    (fun line hline => hcommand line (hsub line hline))
    (fun line hline => hfit line (hsub line hline)) hnone
  have hlast : lines.take (before + 1) = lines.take before ++ [lines[before]] :=
    List.take_succ_eq_append_getElem (by omega)
  have hbuffered : modelEngine.parser.read ((session.takeIn (lines.take before)).buffer ++
      typed [lines[before]]) = .ok reading := by
    rw [Session.takeIn_buffer, hbuffer, List.nil_append, ← typed_append, ← hlast]
    exact hread
  have hfeed := modelEngine.feed_of_items_ne_nil (hcommand _ (List.getElem_mem _)) hbuffered hne
  rw [Session.takeIn_takeIn, ← hlast] at hfeed
  refine ⟨(modelEngine.feedAll session (lines.take before)).2, reading,
    { session.takeIn (lines.take (before + 1)) with
      buffer := []
      items := reading.items
      rounds := session.rounds + 1 },
    ⟨?_, ?_, hwaiting, rfl, rfl, rfl, rfl⟩, hread, hne⟩
  · conv_lhs => rw [hlast]
    rw [feedAll_append, hsession]
    simp only [feedAll, hfeed]
    rfl
  · rw [hlength, List.length_take]
    omega

/-- If the whole text yields a record, there is a first round; it hands over the records of
the whole text, and its remainder begins the remainder of the whole text. -/
theorem exists_firstRound {session : Session Entity} {lines : List Text} {whole : Reading Entity}
    (hbuffer : session.buffer = [])
    (hcommand : ∀ line ∈ lines, Command.ofLine? line = none)
    (hfit : ∀ line ∈ lines, DigitRunsFit line)
    (hwhole : readModel (typed lines) = .ok whole) (hne : whole.items ≠ []) :
    ∃ count waiting fed after, IsLeast {n | Yields (lines.take n)} count ∧
      modelEngine.FirstRound session lines count waiting fed after ∧
      fed.reading.items = whole.items ∧
      fed.reading.remainder ++ typed (lines.drop count) = whole.remainder := by
  classical
  have hall : Yields (lines.take lines.length) := by
    rw [List.take_length]
    exact ⟨whole, hwhole, hne⟩
  have hex : ∃ n, Yields (lines.take n) := ⟨_, hall⟩
  have hleast : IsLeast {n | Yields (lines.take n)} (Nat.find hex) :=
    ⟨Nat.find_spec hex, fun n hn => Nat.find_min' hex hn⟩
  obtain ⟨waiting, reading, after, hround, hread, hitems⟩ :=
    firstRound_of_isLeast hbuffer hcommand hfit hleast (Nat.find_min' hex hall)
  have hsame := readModel_typed_of_take hread hitems
  rw [hwhole] at hsame
  cases hsame
  exact ⟨_, waiting, _, after, hleast, hround, rfl, rfl⟩

/-- **Line by line.** From an empty buffer, ordinary lines complete a round exactly if their
whole text yields records. Then the first round is completed by the last line of the
shortest prefix that yields any; it hands over the records of the whole text, and its
remainder with the lines behind is the remainder of the whole text. From there, with an
empty buffer again, the run is the run of the lines that follow. -/
theorem feedAll_agrees_with_readModel {session : Session Entity} {lines : List Text}
    (hbuffer : session.buffer = [])
    (hcommand : ∀ line ∈ lines, Command.ofLine? line = none)
    (hfit : ∀ line ∈ lines, DigitRunsFit line) :
    ∃ whole, readModel (typed lines) = .ok whole ∧
      ((∃ outcome ∈ (modelEngine.feedAll session lines).2, IsRound outcome) ↔
        whole.items ≠ []) ∧
      (whole.items ≠ [] → ∃ count waiting fed after,
        IsLeast {n | Yields (lines.take n)} count ∧
        modelEngine.FirstRound session lines count waiting fed after ∧
        fed.reading.items = whole.items ∧ after.items = whole.items ∧
        fed.reading.remainder ++ typed (lines.drop count) = whole.remainder ∧
        modelEngine.feedAll session lines =
          ((modelEngine.feedAll after (lines.drop count)).1,
            waiting ++ .ok fed :: (modelEngine.feedAll after (lines.drop count)).2)) := by
  obtain ⟨whole, hwhole⟩ := exists_readModel_eq_ok (digitRunsFit_typed hfit)
  refine ⟨whole, hwhole, ⟨?_, ?_⟩, ?_⟩
  · rintro ⟨outcome, hmem, hround⟩ hnil
    -- if the whole text yields nothing, no prefix does, and every line is waited over
    have hnone : ∀ count ≤ lines.length, ¬ Yields (lines.take count) := by
      rintro count - ⟨reading, hread, hne⟩
      have hsame := readModel_typed_of_take hread hne
      rw [hwhole] at hsame
      cases hsame
      exact hne hnil
    obtain ⟨-, -, hwaiting⟩ := feedAll_model_waiting hbuffer hcommand hfit hnone
    exact (hwaiting outcome hmem).not_isRound hround
  · intro hne
    obtain ⟨count, waiting, fed, after, -, hround, -, -⟩ :=
      exists_firstRound hbuffer hcommand hfit hwhole hne
    rw [hround.feedAll_eq]
    exact ⟨.ok fed, by simp, fed, rfl, hround.complete⟩
  · intro hne
    obtain ⟨count, waiting, fed, after, hleast, hround, hitems, hremainder⟩ :=
      exists_firstRound hbuffer hcommand hfit hwhole hne
    exact ⟨count, waiting, fed, after, hleast, hround, hitems, hround.items.trans hitems,
      hremainder, hround.feedAll_eq⟩

/-- An inheritance typed in three lines completes a round with the last of them. The empty
list in the line behind it yields nothing. -/
theorem feedAll_inheritance_lines :
    ∃ lines : List Text, lines = ["((FAMIX.Inheritance".toList, "(subclass (ref: 1))".toList,
        "(superclass (ref: 2))))".toList, "()".toList] ∧
      (∀ line ∈ lines, Command.ofLine? line = none) ∧ (∀ line ∈ lines, DigitRunsFit line) ∧
      ∃ count waiting fed after, IsLeast {n | Yields (lines.take n)} count ∧
        modelEngine.FirstRound {} lines count waiting fed after ∧
        after.items = [.inheritanceRecord 1 2] ∧
        fed.reading.remainder ++ typed (lines.drop count) = "\n()\n".toList := by
  obtain ⟨lines, hlines⟩ : ∃ lines : List Text, lines = ["((FAMIX.Inheritance".toList,
      "(subclass (ref: 1))".toList, "(superclass (ref: 2))))".toList, "()".toList] := ⟨_, rfl⟩
  have hcommand : ∀ line ∈ lines, Command.ofLine? line = none := by
    rw [hlines]
    decide
  have hlength : ∀ line ∈ lines, line.length ≤ maxDigits := by
    rw [hlines]
    decide
  have hfit : ∀ line ∈ lines, DigitRunsFit line :=
    fun line hline => digitRunsFit_of_length_le (hlength line hline)
  have hread : readModel (typed lines) =
      .ok ⟨[.inheritanceRecord 1 2], true, "\n()\n".toList⟩ := by
    rw [hlines]
    rfl
  obtain ⟨whole, hwhole, -, hround⟩ :=
    @feedAll_agrees_with_readModel {} lines rfl hcommand hfit
  rw [hread] at hwhole
  cases hwhole
  obtain ⟨count, waiting, fed, after, hleast, hfirst, -, hitems, hremainder, -⟩ :=
    hround (List.cons_ne_nil _ _)
  exact ⟨lines, hlines, hcommand, hfit, count, waiting, fed, after, hleast, hfirst, hitems,
    hremainder⟩

end Famix
