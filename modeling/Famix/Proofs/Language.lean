/-
The language of the model grammar, and the meaning of every text in it.

`readModel_eq_matched_iff` is the central fact: reading a text matches with some records
and a remainder exactly if the text is a declared text of these records with the remainder
behind it. The declared text alone decides, so everything that is known of a match is known
of every other text that begins in the same way (`readModel_append`).

What is added to the records here is their list. A repetition is read off its loop: from
left to right by induction on the rounds that are left, from right to left by induction on
the row of records.
-/
import Famix.Proofs.Records
import Famix.Grammar.Model

set_option autoImplicit false

namespace Famix

namespace Grammar

open Famix.Parser

/-! ## Rows of records -/

/-- What a repetition accepts from one of its rounds on: nothing more, and then it is where
it has committed, or a row of elements. The induction is on the rounds left, for any place
where a round may start. -/
theorem reads_manyFrom {α β : Type} {element : Parser α} {separator : Parser β}
    {item : α → Text → Prop} {gap : Text → Prop}
    (helement : Reads element fun value piece _ => item value piece)
    (hseparator : Reads separator fun _ piece _ => gap piece)
    {rounds : Nat} {source : Text} (left : Nat) {committed reached : Int} {place : Nat}
    {found values : List α} {ahead : Text}
    (hahead : Text.unread source place = some ahead)
    (h : manyFrom element separator rounds source left committed place found =
      ⟨.accept values, reached⟩) :
    (values = found.reverse ∧ reached = committed) ∨
      ∃ more piece rest, values = found.reverse ++ more ∧ ahead = piece ++ rest ∧
        reached = (place + piece.length : Nat) ∧ Row item gap more piece := by
  induction left generalizing committed place found ahead with
  | zero => cases h
  | succ left ih =>
    rcases manyFrom_succ_cases element separator rounds source left committed place found with
      ⟨_, -, hm⟩ | ⟨cause, _, -, hm⟩ | ⟨value, middle, he, hround⟩
    · rw [hm] at h
      cases h
      exact .inl ⟨rfl, rfl⟩
    · rw [hm] at h
      cases h
    · obtain ⟨t, behind, rfl, rfl, hitem⟩ := helement hahead he
      have hbehind := Text.unread_add hahead
      -- the element alone is a row, which is all of it in the two rounds that end here
      have hlast : ∀ values : List α, values = (value :: found).reverse →
          ∃ more piece rest, values = found.reverse ++ more ∧ t ++ behind = piece ++ rest ∧
            ((place + t.length : Nat) : Int) = (place + piece.length : Nat) ∧
            Row item gap more piece := by
        rintro _ rfl
        exact ⟨[value], t, behind, List.reverse_cons, rfl, rfl, .last hitem⟩
      rcases hround with ⟨_, -, hm⟩ | ⟨cause, _, -, hm⟩ | ⟨_, -, hm⟩ | ⟨_, after, hs, -, hm⟩
      · rw [hm] at h
        cases h
        exact .inr (hlast _ rfl)
      · rw [hm] at h
        cases h
      · rw [hm] at h
        cases h
        exact .inr (hlast _ rfl)
      · rw [hm] at h
        obtain ⟨s, ahead', rfl, rfl, hgap⟩ := hseparator hbehind hs
        rcases ih (Text.unread_add hbehind) h with
          ⟨rfl, rfl⟩ | ⟨more, piece, rest, rfl, rfl, rfl, hrow⟩
        · exact .inr (hlast _ rfl)
        · refine .inr ⟨value :: more, t ++ (s ++ piece), rest, ?_, ?_, ?_, .cons hitem hgap hrow⟩
          · rw [List.reverse_cons, List.append_assoc, List.singleton_append]
          · simp only [List.append_assoc]
          · rw [List.length_append, List.length_append, Nat.add_assoc, Nat.add_assoc]

/-- Separated records in front of the parenthesis that closes the list are all found, in as
many rounds. The induction is on the row, for any place where its first round may start. -/
theorem manyFrom_records {entities : List Entity} {t : Text}
    (h : Row (RecordText IsReadable) SeparatorText entities t) {rounds : Nat}
    {source after : Text} (left : Nat) (committed : Int) {place : Nat} (found : List Entity)
    (hleft : entities.length ≤ left)
    (hahead : Text.unread source place = some (t ++ (")".toList ++ after))) :
    manyFrom entity separator rounds source left committed place found =
      ⟨.accept (found.reverse ++ entities), (place + t.length : Nat)⟩ := by
  induction h generalizing left committed place found with
  | @last record t hrecord =>
    obtain ⟨left, rfl⟩ : ∃ n, left = n + 1 := ⟨left - 1, by simp at hleft; omega⟩
    have he := settles_entity hrecord [] rounds source (")".toList ++ after) place hahead
    -- behind the last record stands the parenthesis, which is no separator
    have hrefuse : Refuses separator ")".toList := refuses_separator (by decide)
    have hs := hrefuse rounds source after (place + t.length) (Text.unread_add hahead)
    rw [manyFrom_of_last left committed found he hs, List.reverse_cons]
  | @cons record records t s rest hrecord hsep hrow ih =>
    obtain ⟨left, rfl⟩ : ∃ n, left = n + 1 := ⟨left - 1, by simp at hleft; omega⟩
    have hsplit : Text.unread source place =
        some (t ++ (s ++ (rest ++ (")".toList ++ after)))) := by
      rw [hahead, List.append_assoc, List.append_assoc]
    have he := settles_entity hrecord [] rounds source _ place hsplit
    have hbehind := Text.unread_add hsplit
    have hs := settles_separator hsep (hrow.opens fun _ _ => RecordText.opens) rounds source
      (")".toList ++ after) (place + t.length) hbehind
    -- a separator has a newline at least, so the round has moved
    have hmove : ((place + t.length + s.length : Nat) : Int) ≠ place := by
      obtain ⟨count⟩ := hsep
      rw [List.length_cons]
      omega
    rw [manyFrom_of_next left committed found he hs hmove,
      ih left _ (record :: found) (by simp at hleft; omega) (Text.unread_add hbehind)]
    rw [List.reverse_cons, List.append_assoc, List.singleton_append, List.length_append,
      List.length_append, Nat.add_assoc, Nat.add_assoc]

/-! ## Models -/

theorem reads_many {α β : Type} {element : Parser α} {separator : Parser β}
    {item : α → Text → Prop} {gap : Text → Prop}
    (helement : Reads element fun value piece _ => item value piece)
    (hseparator : Reads separator fun _ piece _ => gap piece) :
    Reads (many element separator) fun values piece _ =>
      (values = [] ∧ piece = []) ∨ Row item gap values piece := by
  intro rounds source place ahead values reached hahead hrun
  rcases reads_manyFrom helement hseparator rounds hahead hrun with
    ⟨rfl, rfl⟩ | ⟨more, piece, rest, rfl, rfl, rfl, hrow⟩
  · exact ⟨[], ahead, rfl, rfl, .inl ⟨rfl, rfl⟩⟩
  · exact ⟨piece, rest, rfl, rfl, .inr hrow⟩

/-- The text of a model is a list of no records or a row of them, in parentheses. -/
theorem modelText_iff {numeral : Text → Int → Prop} {entities : List Entity} {c : Text} :
    ModelText numeral entities c ↔
      ∃ t, c = "(".toList ++ (t ++ ")".toList) ∧
        ((entities = [] ∧ t = []) ∨ Row (RecordText numeral) SeparatorText entities t) := by
  constructor
  · intro h
    cases h with
    | empty => exact ⟨[], rfl, .inl ⟨rfl, rfl⟩⟩
    | @records _ t hrow => exact ⟨t, List.append_assoc _ _ _, .inr hrow⟩
  · rintro ⟨t, rfl, ⟨rfl, rfl⟩ | hrow⟩
    · exact .empty
    · rw [← List.append_assoc]
      exact .records hrow

theorem reads_model : Reads model fun entities piece _ => ModelText IsReadable entities piece := by
  refine ((reads_token _).bind fun _ => (reads_many reads_entity reads_separator).bind
    fun entities => (reads_token _).bind fun _ => reads_pure entities).mono ?_
  rintro _ _ rest ⟨_, _, _, rfl, rfl, entities, t, _, rfl, ht, _, _, _, rfl, rfl, rfl, rfl⟩
  exact modelText_iff.mpr ⟨t, by rw [List.append_nil], ht⟩

/-- The repetition finds all records of a list, with one round more than there are. -/
theorem run_many_records {entities : List Entity} {t : Text}
    (h : (entities = [] ∧ t = []) ∨ Row (RecordText IsReadable) SeparatorText entities t)
    {rounds : Nat} {source after : Text} {place : Nat} (hrounds : entities.length < rounds)
    (hahead : Text.unread source place = some (t ++ (")".toList ++ after))) :
    (many entity separator).run rounds source place =
      ⟨.accept entities, (place + t.length : Nat)⟩ := by
  show manyFrom entity separator rounds source rounds place place [] = _
  rcases h with ⟨rfl, rfl⟩ | hrow
  · obtain ⟨left, rfl⟩ : ∃ n, rounds = n + 1 := ⟨rounds - 1, by omega⟩
    -- the list is empty because no record begins with the closing parenthesis
    have hrefuse : Refuses entity ")".toList := refuses_entity fun kind => by cases kind <;> decide
    exact manyFrom_of_reject left _ [] (hrefuse _ source after place hahead)
  · exact manyFrom_records hrow rounds place [] (Nat.le_of_lt hrounds) hahead

/-- The text of a model is accepted with its records, whatever follows it. -/
theorem run_model {entities : List Entity} {c : Text} (h : ModelText IsReadable entities c)
    {rounds : Nat} {source after : Text} {place : Nat} (hrounds : entities.length < rounds)
    (hahead : Text.unread source place = some (c ++ after)) :
    model.run rounds source place = ⟨.accept entities, (place + c.length : Nat)⟩ := by
  obtain ⟨t, rfl, ht⟩ := modelText_iff.mp h
  have hopen : Text.unread source place =
      some ("(".toList ++ (t ++ (")".toList ++ after))) := by
    rw [hahead]
    simp only [List.append_assoc]
  have hlist := Text.unread_add hopen
  have hclose := Text.unread_add hlist
  refine run_bind_eq_accept_iff.mpr ⟨(), _, settles_token "(".toList [] rounds source _ place hopen,
    run_bind_eq_accept_iff.mpr ⟨entities, _, run_many_records ht hrounds hlist,
      run_bind_eq_accept_iff.mpr ⟨(), _, settles_token ")".toList [] rounds source after _ hclose,
        ?_⟩⟩⟩
  rw [run_pure]
  simp only [List.length_append, Nat.add_assoc]

/-- There are no more records than characters. -/
theorem Row.length_le {item : Entity → Text → Prop} {gap : Text → Prop} {entities : List Entity}
    {t : Text} (h : Row item gap entities t) (hitem : ∀ entity t, item entity t → Opens t) :
    entities.length ≤ t.length := by
  induction h with
  | last hvalue =>
    obtain ⟨rest, rfl⟩ := hitem _ _ hvalue
    simp
  | cons hvalue hgap hrow ih =>
    obtain ⟨rest, rfl⟩ := hitem _ _ hvalue
    simp only [List.length_cons, List.length_append]
    omega

theorem ModelText.length_le {numeral : Text → Int → Prop} {entities : List Entity} {c : Text}
    (h : ModelText numeral entities c) : entities.length ≤ c.length := by
  cases h with
  | empty => simp
  | @records entities t hrow =>
    have hle := hrow.length_le fun _ _ => RecordText.opens
    simp only [List.length_append]
    omega

end Grammar

/-! ## Reading -/

/-- A reading repeats the verdict, with everything behind the offset as the remainder. -/
theorem Parser.read_cases {α : Type} (parser : Parser (List α)) (text : Text) :
    (∃ items offset, parser.replyAt text 0 = ⟨.accept items, offset⟩ ∧
      parser.read text = .ok ⟨items, true, text.rest offset⟩) ∨
    (∃ offset, parser.replyAt text 0 = ⟨.reject, offset⟩ ∧
      parser.read text = .ok ⟨[], false, text.rest offset⟩) ∨
    (∃ cause offset, parser.replyAt text 0 = ⟨.fault cause, offset⟩ ∧
      parser.read text = .error cause) := by
  rcases h : parser.replyAt text 0 with ⟨verdict, offset⟩
  cases verdict with
  | accept items => exact .inl ⟨items, offset, rfl, by simp only [read, h]⟩
  | reject => exact .inr (.inl ⟨offset, rfl, by simp only [read, h]⟩)
  | fault cause => exact .inr (.inr ⟨cause, offset, rfl, by simp only [read, h]⟩)

/-- A reading that matches is an acceptance. -/
theorem Parser.read_eq_matched_iff {α : Type} {parser : Parser (List α)} {text : Text}
    {items : List α} {remainder : Text} :
    parser.read text = .ok ⟨items, true, remainder⟩ ↔
      ∃ offset, parser.replyAt text 0 = ⟨.accept items, offset⟩ ∧ text.rest offset = remainder := by
  rcases parser.read_cases text with
    ⟨_, _, hreply, hread⟩ | ⟨_, hreply, hread⟩ | ⟨_, _, hreply, hread⟩
  all_goals
    rw [hread, hreply]
    simp

/-- A reading that stops is a fault. -/
theorem Parser.read_eq_error_iff {α : Type} {parser : Parser (List α)} {text : Text}
    {cause : Fault} :
    parser.read text = .error cause ↔
      ∃ offset, parser.replyAt text 0 = ⟨.fault cause, offset⟩ := by
  rcases parser.read_cases text with
    ⟨_, _, hreply, hread⟩ | ⟨_, hreply, hread⟩ | ⟨_, _, hreply, hread⟩
  all_goals
    rw [hread, hreply]
    simp

/-- Items are read off a text that matches only. -/
theorem Parser.matched_of_items_ne_nil {α : Type} {parser : Parser (List α)} {text : Text}
    {reading : Reading α} (h : parser.read text = .ok reading) (hne : reading.items ≠ []) :
    reading.matched = true := by
  rcases parser.read_cases text with
    ⟨_, _, -, hread⟩ | ⟨_, -, hread⟩ | ⟨_, _, -, hread⟩
  · rw [hread] at h
    cases h
    rfl
  · rw [hread] at h
    cases h
    exact absurd rfl hne
  · rw [hread] at h
    cases h

open Grammar

/-- **The language of the grammar.** A text matches with these records and this remainder
exactly if it is a text of a model of these records, written with numerals that can be
read, with the remainder behind it. -/
theorem readModel_eq_matched_iff {text : Text} {entities : List Entity} {remainder : Text} :
    readModel text = .ok ⟨entities, true, remainder⟩ ↔
      ∃ c, text = c ++ remainder ∧ ModelText IsReadable entities c := by
  rw [readModel, Parser.read_eq_matched_iff]
  constructor
  · rintro ⟨offset, hreply, rfl⟩
    obtain ⟨c, rest, rfl, rfl, hc⟩ := reads_model (Text.unread_zero text) hreply
    refine ⟨c, ?_, hc⟩
    rw [Text.rest, Text.position_natCast, Nat.zero_add, List.drop_left]
  · rintro ⟨c, rfl, hc⟩
    -- every record takes a character at least, so the rounds suffice
    have hrounds : entities.length < Parser.allowance (c ++ remainder) 0 := by
      have hle := hc.length_le
      simp only [Parser.allowance, List.length_append]
      omega
    have hrun := run_model hc hrounds (Text.unread_zero (c ++ remainder))
    refine ⟨(0 + c.length : Nat), hrun, ?_⟩
    · rw [Text.rest, Text.position_natCast, Nat.zero_add, List.drop_left]

/-- More text behind a text that matches goes to the remainder. -/
theorem readModel_append {text : Text} {entities : List Entity} {remainder : Text}
    (h : readModel text = .ok ⟨entities, true, remainder⟩) (more : Text) :
    readModel (text ++ more) = .ok ⟨entities, true, remainder ++ more⟩ := by
  obtain ⟨c, rfl, hc⟩ := readModel_eq_matched_iff.mp h
  exact readModel_eq_matched_iff.mpr ⟨c, List.append_assoc _ _ _, hc⟩

/-- A text whose runs of digits fit matches exactly if it begins with a text of a model, for
numerals of any length. -/
theorem readModel_matches_iff_modelText {text : Text} (hfit : DigitRunsFit text)
    (entities : List Entity) (remainder : Text) :
    readModel text = .ok ⟨entities, true, remainder⟩ ↔
      ∃ c, text = c ++ remainder ∧ ModelText IsNumeral entities c := by
  rw [readModel_eq_matched_iff]
  constructor
  · rintro ⟨c, htext, hc⟩
    exact ⟨c, htext, hc.imp fun digits n _ h => h.1⟩
  · rintro ⟨c, rfl, hc⟩
    -- a numeral in the model is a numeral in the text, so it is short enough
    refine ⟨c, rfl, hc.imp fun digits n hin h => h.isReadable hin ?_⟩
    exact hfit.mono (List.prefix_append c remainder).isInfix

set_option maxRecDepth 4000 in
/-- A package whose numerals have junk behind them, with a parenthesis in its name and
closing parentheses in front of the pair that ends its parent. -/
theorem readModel_package_with_junk :
    DigitRunsFit
        "((FAMIX.Package (id: 07x)\n (name 'a)b')\n(parentPackage (ref: 12) ) )))) ()".toList ∧
      ∃ c, "((FAMIX.Package (id: 07x)\n (name 'a)b')\n(parentPackage (ref: 12) ) )))) ()".toList =
          c ++ " ()".toList ∧
        ModelText IsNumeral [.packageRecord "a)b".toList 7 (some 12)] c :=
  have hfit := digitRunsFit_of_length_le (by decide)
  ⟨hfit, (readModel_matches_iff_modelText hfit _ _).mp rfl⟩

/-- **What is consumed decides.** A text that matches begins with a text `c` that settles the
match by itself: whatever stands behind `c` is the remainder, and the records stay the same.
So more text only prolongs the remainder, without the remainder the match is exact, and no
longer text that begins with `c` matches exactly. -/
theorem readModel_decided_by_consumed {text : Text} {entities : List Entity} {remainder : Text}
    (h : readModel text = .ok ⟨entities, true, remainder⟩) :
    ∃ c, text = c ++ remainder ∧
      (∀ behind, readModel (c ++ behind) = .ok ⟨entities, true, behind⟩) ∧
      (∀ more, readModel (text ++ more) = .ok ⟨entities, true, remainder ++ more⟩) ∧
      readModel c = .ok ⟨entities, true, []⟩ ∧
      ∀ longer others, c <+: longer → readModel longer = .ok ⟨others, true, []⟩ → longer = c := by
  obtain ⟨c, htext, hc⟩ := readModel_eq_matched_iff.mp h
  have hbehind : ∀ behind, readModel (c ++ behind) = .ok ⟨entities, true, behind⟩ :=
    fun behind => readModel_eq_matched_iff.mpr ⟨c, rfl, hc⟩
  have hexact : readModel c = .ok ⟨entities, true, []⟩ := by
    have hnil := hbehind []
    rwa [List.append_nil] at hnil
  refine ⟨c, htext, hbehind, readModel_append h, hexact, ?_⟩
  rintro _ others ⟨behind, rfl⟩ hlonger
  -- the same text is read twice, once with what stands behind `c` as its remainder
  rw [hbehind behind] at hlonger
  cases hlonger
  rw [List.append_nil]

set_option maxRecDepth 4000 in
/-- An attribute with junk in its last field, in front of text that could go on the list. -/
theorem readModel_decided_by_attribute :
    readModel "((FAMIX.Attribute\n(name '')\n(parentType (ref: 1x ) ))))\n)".toList =
        .ok ⟨[.attributeRecord [] 1], true, "\n)".toList⟩ ∧
      ∃ c, "((FAMIX.Attribute\n(name '')\n(parentType (ref: 1x ) ))))\n)".toList =
          c ++ "\n)".toList ∧
        (∀ behind, readModel (c ++ behind) = .ok ⟨[.attributeRecord [] 1], true, behind⟩) ∧
        ∀ longer others, c <+: longer → readModel longer = .ok ⟨others, true, []⟩ → longer = c :=
  have hread := rfl
  have ⟨c, htext, hbehind, _, _, hfree⟩ := readModel_decided_by_consumed hread
  ⟨hread, c, htext, hbehind, hfree⟩

end Famix
