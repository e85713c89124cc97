/-
Runs that end, and the rounds that are always enough for them.

A run is given an allowance of rounds for each repetition, and it ends if some allowance is
enough for it. Leaps forward may lead beyond the end of the source, and repetitions of them may
go on there for ever, so not every run ends. But if one ends, then it does so with an allowance
of one round for each character left and two more (`Advancing.sparing`), and what is granted
beyond that does not show. The library grants more, hence it finds every end there is.

The reason is that the rounds of a repetition start farther and farther on. At most one of them
starts beyond the end of the source: all places are alike there, so that a round which leads on
leads on for ever (`manyFrom_not_ended`).

Together with `Memoryless` this says what a text read before may change about a run: the places,
and nothing else (`endsWith_drop`).
-/
import Famix.Proofs.Foresight
import Famix.Proofs.Termination

set_option autoImplicit false

namespace Famix

variable {α β : Type}

namespace Reply

/-- The rounds have been enough. -/
def Ended (reply : Reply α) : Prop := reply.verdict ≠ .fault .endless

/-- The same reply some places farther on. -/
def shifted (reply : Reply α) (distance : Int) : Reply α :=
  ⟨reply.verdict, reply.offset + distance⟩

/-- Going on and coming back again. -/
theorem shifted_neg_shifted (reply : Reply α) (distance : Int) :
    (reply.shifted (-distance)).shifted distance = reply := by
  rw [shifted, shifted, Int.neg_add_cancel_right]

theorem ended_iff {reply : Reply α} :
    reply.Ended ↔ ∀ offset, reply ≠ ⟨.fault .endless, offset⟩ := by
  constructor
  · rintro h offset rfl
    exact h rfl
  · intro h hendless
    apply h reply.offset
    rw [← hendless]

/-- The rounds have been enough for a part if without them they would not have been enough for the
whole. -/
theorem Ended.of_part {reply : Reply α} {part : Reply β} (h : reply.Ended)
    (hwhole : ∀ reached, part = ⟨.fault .endless, reached⟩ →
      reply = ⟨.fault .endless, reached⟩) : part.Ended :=
  ended_iff.mpr fun reached hendless => ended_iff.mp h reached (hwhole reached hendless)

/-- To be taken back has nothing to do with the rounds. -/
theorem ended_rollback_iff {reply : Reply α} {start : Int} :
    (reply.rollback start).Ended ↔ reply.Ended := by
  simp only [ended_iff, ne_eq, rollback_eq_fault_iff]

end Reply

namespace Parser

/-- The run from an offset ends with this reply: some allowance of rounds is enough. -/
def EndsWith (parser : Parser α) (source : Text) (offset : Int) (reply : Reply α) : Prop :=
  reply.Ended ∧ ∃ rounds, parser.run rounds source offset = reply

/-! ## Rounds enough -/

/-- If some allowance is enough for a run, then one round for each character left and two more
are, and whatever is granted beyond that does not show. -/
def Sparing (parser : Parser α) : Prop :=
  ∀ (rounds rounds' : Nat) (source : Text) (place : Nat),
    (parser.run rounds source place).Ended → source.length - place + 2 ≤ rounds' →
    parser.run rounds' source place = parser.run rounds source place

/-- A chain is sparing if its parts are. That the first part leads forward is needed, as the second
one counts the characters left from where it starts. -/
theorem Sparing.bind {first : Parser α} {next : α → Parser β} (hfirst : Sparing first)
    (hforward : Memoryless first) (hnext : ∀ a, Sparing (next a)) : Sparing (first >>= next) := by
  intro rounds rounds' source place hended hrounds
  have hpart : (first.run rounds source place).Ended :=
    hended.of_part fun _ hendless => run_bind_fault rounds source place hendless
  have hsame := hfirst rounds rounds' source place hpart hrounds
  obtain ⟨verdict, steps, hrun, -⟩ := hforward rounds source source place place rfl
  rw [hrun] at hsame
  cases verdict with
  | accept value =>
    rw [run_bind_accept rounds source place hrun] at hended ⊢
    rw [run_bind_accept rounds' source place hsame]
    rw [Reply.ended_rollback_iff] at hended
    -- fewer characters are left behind the first part
    rw [hnext value rounds rounds' source (place + steps) hended (by omega)]
  | reject =>
    rw [run_bind_reject rounds source place hrun, run_bind_reject rounds' source place hsame]
  | fault cause =>
    rw [run_bind_fault rounds source place hrun, run_bind_fault rounds' source place hsame]

theorem Sparing.transform {parser : Parser α} (h : Sparing parser) (treat : α → Verdict β) :
    Sparing (parser.transform treat) := by
  intro rounds rounds' source place hended hrounds
  have hpart : (parser.run rounds source place).Ended :=
    hended.of_part fun _ hendless => by simp only [Parser.transform, hendless]
  simp only [Parser.transform, h rounds rounds' source place hpart hrounds]

theorem Sparing.optional {parser : Parser α} (h : Sparing parser) : Sparing parser.optional := by
  intro rounds rounds' source place hended hrounds
  have hpart : (parser.run rounds source place).Ended :=
    hended.of_part fun _ hendless => run_optional_eq_fault_iff.mpr hendless
  simp only [Parser.optional, h rounds rounds' source place hpart hrounds]

theorem Sparing.oneOf {alternatives : List (Parser α)}
    (h : ∀ alternative ∈ alternatives, Sparing alternative) : Sparing (oneOf alternatives) := by
  intro rounds rounds' source place hended hrounds
  induction alternatives with
  | nil => rfl
  | cons alternative others ih =>
    have hpart : (alternative.run rounds source place).Ended :=
      hended.of_part fun _ hendless => by simp only [Parser.oneOf, hendless]
    have hsame := h alternative List.mem_cons_self rounds rounds' source place hpart hrounds
    have hothers := ih fun other hother => h other (List.mem_cons_of_mem alternative hother)
    -- the same alternative decides with both allowances, since those in front of it reject with
    -- both
    rcases run_oneOf_cases alternative others rounds source place with
      ⟨ho, hne⟩ | ⟨reached, hreject, ho⟩
    · rw [ho, ← hsame]
      rw [← hsame] at hne
      rcases run_oneOf_cases alternative others rounds' source place with
        ⟨ho', -⟩ | ⟨reached, hreject, -⟩
      · exact ho'
      · exact absurd hreject (hne reached)
    · rw [ho] at hended ⊢
      rw [← hothers hended]
      rw [← hsame] at hreject
      simp only [Parser.oneOf, hreject]

/-! ## Repetitions that go on -/

section

variable {element : Parser α} {separator : Parser β}

/-- A round beyond the end of the source that leads on is repeated for ever, since the places
it leads to are like the one where it started. -/
theorem manyFrom_not_ended (helement : Memoryless element) (hseparator : Memoryless separator)
    {rounds : Nat} {source : Text} {place steps more : Nat} {value : α} {gap : β}
    (hplace : source.length < place)
    (he : element.run rounds source place = ⟨.accept value, (place + steps : Nat)⟩)
    (hs : separator.run rounds source (place + steps : Nat) =
      ⟨.accept gap, (place + steps + more : Nat)⟩)
    (hmove : steps + more ≠ 0) (left : Nat) (committed : Int) (found : List α) :
    ¬ (manyFrom element separator rounds source left committed place found).Ended := by
  -- on the rounds that are left, each of which is spent
  induction left generalizing place committed found with
  | zero => exact fun hended => hended rfl
  | succ left ih =>
    -- nothing lies ahead of this place, and nothing lies ahead of those farther on
    have halike : Text.unread source place =
        Text.unread source (place + steps + more : Nat) := by
      rw [Text.unread_natCast_eq_none_iff.mpr hplace,
        Text.unread_natCast_eq_none_iff.mpr (by omega)]
    rw [manyFrom_of_next left committed found he hs (by omega)]
    apply ih (by omega)
    · exact helement.run_eq halike he
    · exact hseparator.run_eq (Text.unread_add_eq_unread_add halike steps) hs

/-- From any of its rounds on, a repetition that ends needs a round for each character ahead and
two more, or a single one beyond the end of the source. -/
theorem manyFrom_sparing (helement : Sparing element) (hforward : Memoryless element)
    (hseparator : Sparing separator) (hforward' : Memoryless separator) {rounds rounds' : Nat}
    {source : Text} (left left' : Nat) (committed : Int) {head : Nat} (found : List α)
    (hended : (manyFrom element separator rounds source left committed head found).Ended)
    (hrounds : source.length - head + 2 ≤ rounds')
    (hleft : source.length - head + 2 ≤ left' ∨ source.length < head ∧ 1 ≤ left') :
    manyFrom element separator rounds' source left' committed head found =
      manyFrom element separator rounds source left committed head found := by
  -- on the rounds that sufficed, to be followed with those that are granted. Beyond the end one
  -- round has to do: a second one would be repeated for ever
  induction left generalizing left' committed head found with
  | zero => exact absurd rfl hended
  | succ left ih =>
    obtain ⟨left', rfl⟩ : ∃ n, left' = n + 1 := ⟨left' - 1, by omega⟩
    have hpart : (element.run rounds source head).Ended :=
      hended.of_part fun _ hendless => by rw [manyFrom, hendless]
    have hsame := helement rounds rounds' source head hpart hrounds
    obtain ⟨verdict, steps, he, -⟩ := hforward rounds source source head head rfl
    rw [he] at hsame
    cases verdict with
    | reject =>
      rw [manyFrom_of_reject left committed found ⟨_, he⟩,
        manyFrom_of_reject left' committed found ⟨_, hsame⟩]
    | fault cause => rw [manyFrom, manyFrom, hsame, he]
    | accept value =>
      have hgap : (separator.run rounds source (head + steps : Nat)).Ended :=
        hended.of_part fun _ hendless => by simp only [manyFrom, he, hendless]
      have hsame' := hseparator rounds rounds' source (head + steps) hgap (by omega)
      obtain ⟨verdict, more, hs, -⟩ := hforward' rounds source source (head + steps)
        (head + steps) rfl
      rw [hs] at hsame'
      cases verdict with
      | reject =>
        rw [manyFrom_of_last left committed found he ⟨_, hs⟩,
          manyFrom_of_last left' committed found hsame ⟨_, hsame'⟩]
      | fault cause => simp only [manyFrom, he, hs, hsame, hsame']
      | accept gap =>
        by_cases hmove : steps + more = 0
        · have hstill : ((head + steps + more : Nat) : Int) = head := by omega
          simp only [manyFrom, he, hs, hsame, hsame', hstill, if_true]
        · have hnext : ((head + steps + more : Nat) : Int) ≠ head := by omega
          -- a round that leads on does not start beyond the end
          have hhead : head ≤ source.length := by
            by_contra hbeyond
            exact manyFrom_not_ended hforward hforward' (by omega) he hs hmove (left + 1)
              committed found hended
          rw [manyFrom_of_next left committed found he hs hnext] at hended ⊢
          rw [manyFrom_of_next left' committed found hsame hsame' hnext]
          exact ih left' _ (value :: found) hended (by omega) (by omega)

/-- A repetition is sparing if its element and its separator are and look ahead only. -/
theorem Sparing.many (helement : Sparing element) (hforward : Memoryless element)
    (hseparator : Sparing separator) (hforward' : Memoryless separator) :
    Sparing (many element separator) := by
  intro rounds rounds' source place hended hrounds
  exact manyFrom_sparing helement hforward hseparator hforward' rounds rounds' place [] hended
    hrounds (.inl hrounds)

end

/-- What is put in sequence from scanning parsers has no use for rounds. -/
theorem Straight.sparing {parser : Parser α} (h : Straight parser) : Sparing parser := by
  induction h with
  | pure | literal | takeWhile | through | number => exact fun _ _ _ _ _ _ => rfl
  | bind hfirst _ ihfirst ihnext => exact ihfirst.bind hfirst.memoryless ihnext

/-- Whatever moves forward only is sparing, leaps forward included. -/
theorem Advancing.sparing {parser : Parser α} (h : Advancing parser) : Sparing parser := by
  induction h with
  | straight h => exact h.sparing
  | leap => exact fun _ _ _ _ _ _ => rfl
  | bind hfirst _ ihfirst ihnext => exact ihfirst.bind hfirst.memoryless ihnext
  | transform _ treat ih => exact ih.transform treat
  | optional _ ih => exact ih.optional
  | oneOf _ ih => exact Sparing.oneOf ih
  | many helement hseparator ihelement ihseparator =>
    exact ihelement.many helement.memoryless ihseparator hseparator.memoryless

/-! ## Ends -/

/-- Two runs with the same text ahead end together, with the same verdict and equally far on. -/
theorem Memoryless.endsWith_iff {parser : Parser α} (h : Memoryless parser) {source other : Text}
    {place place' : Nat} (hahead : Text.unread source place = Text.unread other place')
    (reply : Reply α) :
    parser.EndsWith source place (reply.shifted place) ↔
      parser.EndsWith other place' (reply.shifted place') := by
  -- the same allowance serves for both runs
  refine and_congr Iff.rfl (exists_congr fun rounds => ?_)
  obtain ⟨verdict, steps, hsource, hother⟩ := h rounds source other place place' hahead
  rw [hsource, hother]
  simp only [Reply.shifted, Reply.mk.injEq]
  refine and_congr Iff.rfl ?_
  constructor
  · intro hplace
    omega
  · intro hplace
    omega

end Parser

namespace Description

open Famix.Parser

/-! ## Descriptions whose leaps lead forward -/

/-- Whether a description is a leap backwards. -/
def isBackwardLeap : Description → Bool
  | leap shift _ => shift < 0
  | _ => false

/-- No part of the description is a leap backwards. -/
def ForwardOnly (description : Description) : Prop :=
  ∀ part ∈ description.parts, part.isBackwardLeap = false

instance (description : Description) : Decidable description.ForwardOnly :=
  inferInstanceAs (Decidable (∀ part ∈ description.parts, part.isBackwardLeap = false))

/-- If its leaps lead forward, a description moves forward whatever its mappings do. -/
theorem ForwardOnly.advancing {description : Description} (h : description.ForwardOnly) :
    Advancing description.parser := by
  have hdown : ∀ {inner outer : Description}, outer.ForwardOnly → inner.parts ⊆ outer.parts →
      inner.ForwardOnly := fun h hsub part hpart => h part (hsub hpart)
  induction description using induct with
  | literal text => exact .transform (.straight (.literal text)) _
  | takeWhile belongs => exact .transform (.straight (.takeWhile belongs)) _
  | through delimiter => exact .transform (.straight (.through delimiter)) _
  | number => exact .transform (.straight .number) _
  | leap shift accepts =>
    -- the shift of a leap that is allowed is a number of characters
    have hshift : ¬ shift < 0 := by simpa [isBackwardLeap] using h _ List.mem_cons_self
    obtain ⟨count, rfl⟩ := Int.eq_ofNat_of_zero_le (Int.not_lt.mp hshift)
    exact .leap count accepts
  | rule rule =>
    have hbuilt : Built (fun _ => True) rule.parser := rule.built
    exact hbuilt.advancing
  | sequence members ih =>
    rw [parser, parsers_eq_map]
    refine .transform (advancing_sequence fun part hpart => ?_) _
    obtain ⟨member, hmem, rfl⟩ := List.mem_map.mp hpart
    exact ih member hmem (hdown h (parts_subset_sequence hmem))
  | optional part ih =>
    exact .transform (.optional (ih (hdown h (List.subset_cons_self _ _)))) _
  | oneOf members ih =>
    rw [parser, parsers_eq_map]
    refine .oneOf fun alternative halternative => ?_
    obtain ⟨member, hmem, rfl⟩ := List.mem_map.mp halternative
    exact ih member hmem (hdown h (parts_subset_oneOf hmem))
  | many element separator ihelement ihseparator =>
    exact .transform (.many (ihelement (hdown h (element_parts_subset element separator)))
      (ihseparator (hdown h (separator_parts_subset element separator)))) _
  | map part treat ih => exact .transform (ih (hdown h (List.subset_cons_self _ _))) treat

/-- The library's reader ends whenever some allowance of rounds is enough, with the same
reply. -/
theorem replyAt_of_endsWith {description : Description} (h : description.ForwardOnly)
    {source : Text} {place : Nat} {reply : Reply Value}
    (hends : description.parser.EndsWith source place reply) :
    description.reader.replyAt source place = reply := by
  obtain ⟨hended, rounds, hrun⟩ := hends
  rw [← hrun] at hended ⊢
  have hgranted := le_granted description source place
  rw [placesLeft_natCast] at hgranted
  exact h.advancing.sparing rounds _ source place hended hgranted

/-- **What was read before does not matter.** If its leaps lead forward, a description that runs
from a place of a source ends exactly if it ends on the rest of the source alone, with the same
verdict, and the offsets differ by the place. This is so for all runs with the same text ahead,
whatever stands before it. And the reply is the one that the library's reader gives. -/
theorem endsWith_drop {description : Description} (h : description.ForwardOnly) {source : Text}
    {place : Nat} (hplace : place ≤ source.length) :
    ((∃ reply, description.parser.EndsWith source place reply) ↔
      ∃ reply, description.parser.EndsWith (source.drop place) 0 reply) ∧
    (∀ reply : Reply Value, description.parser.EndsWith source place (reply.shifted place) ↔
      description.parser.EndsWith (source.drop place) 0 reply) ∧
    (∀ (other : Text) (place' : Nat), place' ≤ other.length →
      other.drop place' = source.drop place →
      ∀ reply : Reply Value, description.parser.EndsWith source place (reply.shifted place) ↔
        description.parser.EndsWith other place' (reply.shifted place')) ∧
    ∀ (text : Text) (start : Nat) (reply : Reply Value),
      description.parser.EndsWith text start reply →
      description.reader.replyAt text start = reply := by
  have hmemoryless := h.advancing.memoryless
  have hdrop : ∀ reply : Reply Value,
      description.parser.EndsWith source place (reply.shifted place) ↔
        description.parser.EndsWith (source.drop place) 0 reply := by
    intro reply
    have hzero : reply.shifted (0 : Nat) = reply := by
      rw [Reply.shifted, Int.natCast_zero, Int.add_zero]
    have hahead := Text.unread_eq_unread_of_drop_eq hplace (Nat.zero_le (source.drop place).length)
      List.drop_zero.symm
    rw [hmemoryless.endsWith_iff hahead reply, hzero]
    rfl
  refine ⟨⟨?_, ?_⟩, hdrop, ?_, fun text start reply => replyAt_of_endsWith h⟩
  · rintro ⟨reply, hends⟩
    rw [← reply.shifted_neg_shifted place] at hends
    exact ⟨_, (hdrop _).mp hends⟩
  · rintro ⟨reply, hends⟩
    exact ⟨_, (hdrop reply).mpr hends⟩
  · intro other place' hplace' hsame reply
    exact hmemoryless.endsWith_iff
      (Text.unread_eq_unread_of_drop_eq hplace hplace' hsame.symm) reply

/-- Numbers, each of them with a leap over the character behind it, are repeated. Another
alternative leaps first, and a mapping rejects where it has led to. -/
theorem endsWith_drop_leaps :
    ∃ description : Description,
      description = many (oneOf [map (leap 2 true) fun _ => .reject,
        keepFirst number (leap 1 true)]) noSeparator ∧
      description.ForwardOnly ∧ 2 ≤ "ab1,2,x".toList.length ∧
      description.parser.EndsWith ("ab1,2,x".toList.drop 2) 0
        ⟨.accept (.list [.number 1, .number 2]), 4⟩ ∧
      description.parser.EndsWith "ab1,2,x".toList 2
        ⟨.accept (.list [.number 1, .number 2]), 6⟩ ∧
      description.reader.replyAt "ab1,2,x".toList 2 =
        ⟨.accept (.list [.number 1, .number 2]), 6⟩ := by
  obtain ⟨description, hdescription⟩ : ∃ description : Description,
    description = many (oneOf [map (leap 2 true) fun _ => .reject,
      keepFirst number (leap 1 true)]) noSeparator := ⟨_, rfl⟩
  have hforward : description.ForwardOnly := by
    rw [hdescription]
    decide
  have hplace : 2 ≤ "ab1,2,x".toList.length := by decide
  obtain ⟨-, hdrop, -, hreader⟩ := endsWith_drop hforward hplace
  have hrest : description.parser.EndsWith ("ab1,2,x".toList.drop 2) 0
      ⟨.accept (.list [.number 1, .number 2]), 4⟩ := by
    rw [hdescription]
    exact ⟨by simp [Reply.Ended], 9, rfl⟩
  have hwhole := (hdrop _).mpr hrest
  exact ⟨description, hdescription, hforward, hplace, hrest, hwhole, hreader _ 2 _ hwhole⟩

end Description

end Famix
