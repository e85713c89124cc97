/-
Four judgements on a parser, each about what lies ahead of it.

`Reads` goes from a run to the text: whatever the parser accepts is a piece of a stated
language, with the rest in view, since a longest run depends on what follows it. `Settles`
goes from the text to every run: a piece in front of a known text is accepted whatever comes
after that text and whatever was read before. `Refuses` is the same for mismatches, and
`Demands` names the one text without which there is a mismatch.

All four are closed under the combinations, so that a statement about a parser is put
together the way the parser is. Nothing here mentions records.
-/
import Famix.Proofs.Combine
import Famix.Proofs.Scan

set_option autoImplicit false

namespace Famix.Parser

variable {α β : Type}

/-- Whatever the parser accepts is a piece of what lies ahead, and `language` holds of the
value, the piece and the rest. -/
def Reads (parser : Parser α) (language : α → Text → Text → Prop) : Prop :=
  ∀ ⦃rounds : Nat⦄ ⦃source : Text⦄ ⦃place : Nat⦄ ⦃ahead : Text⦄ ⦃value : α⦄ ⦃reached : Int⦄,
    Text.unread source place = some ahead →
    parser.run rounds source place = ⟨.accept value, reached⟩ →
    ∃ piece rest, ahead = piece ++ rest ∧ reached = (place + piece.length : Nat) ∧
      language value piece rest

/-- In front of `next`, whatever follows that, the parser accepts `piece` with `value`. -/
def Settles (parser : Parser α) (value : α) (piece next : Text) : Prop :=
  ∀ (rounds : Nat) (source after : Text) (place : Nat),
    Text.unread source place = some (piece ++ (next ++ after)) →
    parser.run rounds source place = ⟨.accept value, (place + piece.length : Nat)⟩

/-- In front of `next`, whatever follows that, the parser rejects. -/
def Refuses (parser : Parser α) (next : Text) : Prop :=
  ∀ (rounds : Nat) (source after : Text) (place : Nat),
    Text.unread source place = some (next ++ after) →
    ∃ reached, parser.run rounds source place = ⟨.reject, reached⟩

/-- Where the text `opening` does not lie ahead, the parser rejects. This is said of all offsets,
those that count from the end included. -/
def Demands (parser : Parser α) (opening : Text) : Prop :=
  ∀ (rounds : Nat) (source : Text) (offset : Int),
    (∀ ahead, Text.unread source offset = some ahead → ¬ opening <+: ahead) →
    ∃ reached, parser.run rounds source offset = ⟨.reject, reached⟩

/-! ## What is read -/

/-- A larger language is read as well. This is how the language of a chain, which comes out of
`Reads.bind` as a statement about pieces, is brought into the form of the grammar. -/
theorem Reads.mono {parser : Parser α} {language language' : α → Text → Text → Prop}
    (h : Reads parser language)
    (himp : ∀ value piece rest, language value piece rest → language' value piece rest) :
    Reads parser language' := by
  intro rounds source place ahead value reached hahead hrun
  obtain ⟨piece, rest, hpiece, hreached, hlanguage⟩ := h hahead hrun
  exact ⟨piece, rest, hpiece, hreached, himp value piece rest hlanguage⟩

/-- A value given for nothing reads the empty piece. -/
theorem reads_pure (a : α) : Reads (pure a) fun value piece _ => value = a ∧ piece = [] := by
  intro rounds source place ahead value reached _ hrun
  rw [run_pure] at hrun
  cases hrun
  exact ⟨[], ahead, rfl, rfl, rfl, rfl⟩

/-- A fixed text reads itself. The value is said too, since a description may keep it. -/
theorem reads_literal (text : Text) :
    Reads (literal text) fun value piece _ => value = text ∧ piece = text := by
  intro rounds source place ahead value reached hahead hrun
  rw [run_literal rounds text hahead] at hrun
  split at hrun
  · next hp =>
    obtain ⟨rest, rfl⟩ := List.isPrefixOf_iff_prefix.mp hp
    cases hrun
    exact ⟨text, rest, rfl, rfl, rfl, rfl⟩
  · cases hrun

/-- A run reads characters of its class, and the rest begins with none of them. Without the second
half the language would hold of every shorter run. -/
theorem reads_takeWhile (belongs : Char → Bool) :
    Reads (takeWhile belongs) fun value piece rest =>
      value = piece ∧ (∀ c ∈ piece, belongs c = true) ∧ ∀ c ∈ rest.head?, belongs c = false := by
  intro rounds source place ahead value reached hahead hrun
  obtain ⟨-, rfl⟩ := Text.unread_natCast_eq_some_iff.mp hahead
  rw [run_takeWhile] at hrun
  cases hrun
  exact ⟨_, (source.drop place).dropWhile belongs, List.takeWhile_append_dropWhile.symm, rfl,
    rfl, Text.isLongestRun_takeWhile belongs _⟩

/-- What is taken through a delimiter ends with it, and the delimiter occurs nowhere earlier. -/
theorem reads_through (delimiter : Text) :
    Reads (through delimiter) fun value piece _ =>
      value = piece ∧ Text.EndsAtFirst delimiter piece := by
  intro rounds source place ahead value reached hahead hrun
  -- the piece is the shortest beginning that ends with the delimiter, or there is none
  rw [run_through rounds delimiter hahead] at hrun
  split at hrun
  · next piece hpiece =>
    obtain ⟨⟨rest, hrest⟩, hends⟩ := Text.upThrough_eq_some_iff.mp hpiece
    cases hrun
    exact ⟨value, rest, hrest, rfl, rfl, hends⟩
  · cases hrun

/-- A number reads one to `maxDigits` digits of which it is the decimal value, and the rest begins
with no digit. A longer run of digits is a fault, so it is not read. -/
theorem reads_number :
    Reads number fun value piece rest =>
      value = Text.decimalValue piece ∧ piece ≠ [] ∧ (∀ c ∈ piece, c.isDigit = true) ∧
        piece.length ≤ maxDigits ∧ ∀ c ∈ rest.head?, c.isDigit = false := by
  intro rounds source place ahead value reached hahead hrun
  obtain ⟨-, rfl⟩ := Text.unread_natCast_eq_some_iff.mp hahead
  rw [run_number] at hrun
  dsimp only at hrun
  -- the run of digits is empty, too long, or the numeral
  split at hrun
  · cases hrun
  · next hne =>
    split at hrun
    · cases hrun
    · next hle =>
      cases hrun
      obtain ⟨hdigits, hend⟩ := Text.isLongestRun_takeWhile Char.isDigit (source.drop place)
      exact ⟨_, (source.drop place).dropWhile Char.isDigit,
        List.takeWhile_append_dropWhile.symm, rfl, rfl, hne, hdigits, Nat.not_lt.mp hle, hend⟩

/-- A chain reads a piece of the first part in front of a piece of the second. The language of the
first part is taken at the second piece and what is behind it, since that is its rest. -/
theorem Reads.bind {first : Parser α} {next : α → Parser β} {L : α → Text → Text → Prop}
    {M : α → β → Text → Text → Prop} (hfirst : Reads first L)
    (hnext : ∀ a, Reads (next a) (M a)) :
    Reads (first >>= next) fun value piece rest =>
      ∃ a p q, piece = p ++ q ∧ L a p (q ++ rest) ∧ M a value q rest := by
  intro rounds source place ahead value reached hahead hrun
  obtain ⟨a, middle, ha, hvalue⟩ := run_bind_eq_accept_iff.mp hrun
  -- the second part starts at what the first one has left
  obtain ⟨p, behind, rfl, rfl, hL⟩ := hfirst hahead ha
  obtain ⟨q, rest, rfl, rfl, hM⟩ := hnext a (Text.unread_add hahead) hvalue
  refine ⟨p ++ q, rest, (List.append_assoc p q rest).symm, ?_, a, p, q, rfl, hL, hM⟩
  rw [List.length_append, Nat.add_assoc]

/-- A token reads its text and gives nothing. -/
theorem reads_token (text : Text) : Reads (token text) fun _ piece _ => piece = text := by
  refine ((reads_literal text).bind fun _ => reads_pure ()).mono ?_
  rintro _ _ rest ⟨_, p, q, rfl, ⟨rfl, rfl⟩, -, rfl⟩
  exact List.append_nil p

/-- An optional part reads what the part reads, or nothing. -/
theorem Reads.optional {parser : Parser α} {L : α → Text → Text → Prop} (h : Reads parser L) :
    Reads parser.optional fun value? piece rest =>
      match value? with
      | some value => L value piece rest
      | none => piece = [] := by
  intro rounds source place ahead value? reached hahead hrun
  -- the part is accepted, is rejected and gives way, or fails with a fault
  rcases run_optional_cases parser rounds source place with
    ⟨value, middle, hp, ho⟩ | ⟨middle, -, ho⟩ | ⟨cause, middle, -, ho⟩
  · rw [ho] at hrun
    cases hrun
    exact h hahead hp
  · rw [ho] at hrun
    cases hrun
    exact ⟨[], ahead, rfl, rfl, rfl⟩
  · rw [ho] at hrun
    cases hrun

/-- A choice reads a language that each of its alternatives reads. -/
theorem Reads.oneOf {alternatives : List (Parser α)} {L : α → Text → Text → Prop}
    (h : ∀ alternative ∈ alternatives, Reads alternative L) : Reads (oneOf alternatives) L := by
  intro rounds source place ahead value reached hahead hrun
  -- on the alternatives: the one in front decides, or it is rejected and the others are tried from
  -- the same place
  induction alternatives with
  | nil => cases hrun
  | cons alternative others ih =>
    rcases run_oneOf_cases alternative others rounds source place with ⟨ho, -⟩ | ⟨middle, -, ho⟩
    · rw [ho] at hrun
      exact h alternative List.mem_cons_self hahead hrun
    · rw [ho] at hrun
      exact ih (fun other hother => h other (List.mem_cons_of_mem _ hother)) hrun

/-! ## What is settled -/

/-- A value given for nothing is settled by the empty piece, in front of anything. -/
theorem settles_pure (a : α) (next : Text) : Settles (pure a) a [] next := by
  intro rounds source after place _
  rfl

/-- A fixed text is settled by itself, in front of anything. -/
theorem settles_literal (text next : Text) : Settles (literal text) text text next := by
  intro rounds source after place hahead
  rw [run_literal rounds text hahead,
    if_pos (List.isPrefixOf_iff_prefix.mpr (List.prefix_append _ _))]

/-- A run of characters ends in front of a character of another class. -/
theorem settles_takeWhile {belongs : Char → Bool} {piece next : Text} {c : Char}
    (hpiece : ∀ d ∈ piece, belongs d = true) (hc : belongs c = false) :
    Settles (takeWhile belongs) piece piece (c :: next) := by
  intro rounds source after place hahead
  obtain ⟨-, hdrop⟩ := Text.unread_natCast_eq_some_iff.mp hahead
  rw [run_takeWhile, hdrop, List.cons_append,
    (Text.isLongestRun_cons hpiece hc).takeWhile_append]

/-- A piece that ends where the delimiter first occurs is settled in front of anything: what comes
later cannot make the delimiter occur earlier. -/
theorem settles_through {delimiter piece : Text} (h : Text.EndsAtFirst delimiter piece)
    (next : Text) : Settles (through delimiter) piece piece next := by
  intro rounds source after place hahead
  rw [run_through rounds delimiter hahead, Text.upThrough_append h]

/-- A numeral of admitted length ends in front of a character that is no digit. -/
theorem settles_number {piece next : Text} {c : Char} (hne : piece ≠ [])
    (hpiece : ∀ d ∈ piece, d.isDigit = true) (hlen : piece.length ≤ maxDigits)
    (hc : c.isDigit = false) :
    Settles number (Text.decimalValue piece) piece (c :: next) := by
  intro rounds source after place hahead
  obtain ⟨-, hdrop⟩ := Text.unread_natCast_eq_some_iff.mp hahead
  rw [run_number_append rounds hdrop (Text.isLongestRun_cons hpiece hc), if_neg hne,
    if_neg (Nat.not_lt.mpr hlen)]

/-- A chain is settled by a piece of the first part and a piece of the second. The first part has to
be settled in front of the second piece, which is where its run has to end. -/
theorem Settles.bind {first : Parser α} {next : α → Parser β} {a : α} {value : β}
    {p q behind : Text} (hfirst : Settles first a p (q ++ behind))
    (hnext : Settles (next a) value q behind) :
    Settles (first >>= next) value (p ++ q) behind := by
  intro rounds source after place hahead
  have hsplit : Text.unread source place = some (p ++ (q ++ (behind ++ after))) := by
    rw [hahead, List.append_assoc]
  refine run_bind_eq_accept_iff.mpr ⟨a, (place + p.length : Nat), ?_, ?_⟩
  · exact hfirst rounds source after place (by rw [hsplit, List.append_assoc])
  · rw [hnext rounds source after (place + p.length) (Text.unread_add hsplit),
      List.length_append, Nat.add_assoc]

/-- A last part, of which only the value is treated further. -/
theorem Settles.value {parser : Parser α} {a : α} {piece behind : Text}
    (h : Settles parser a piece behind) (value : α → β) :
    Settles (parser >>= fun a => pure (value a)) (value a) piece behind := by
  have hbind : Settles (parser >>= fun a => pure (value a)) (value a) (piece ++ []) behind :=
    Settles.bind h (settles_pure (value a) behind)
  rwa [List.append_nil] at hbind

/-- A token is settled by its text, in front of anything. -/
theorem settles_token (text next : Text) : Settles (token text) () text next :=
  (settles_literal text next).value fun _ => ()

/-- An optional part is settled by what settles the part. -/
theorem Settles.optional {parser : Parser α} {value : α} {piece next : Text}
    (h : Settles parser value piece next) : Settles parser.optional (some value) piece next := by
  intro rounds source after place hahead
  have hrun := h rounds source after place hahead
  rcases run_optional_cases parser rounds source place with
    ⟨a, middle, hp, ho⟩ | ⟨middle, hp, -⟩ | ⟨cause, middle, hp, -⟩
  · rw [hp] at hrun
    cases hrun
    exact ho
  · rw [hp] at hrun
    cases hrun
  · rw [hp] at hrun
    cases hrun

/-- An optional part that refuses what follows is settled by the empty piece. -/
theorem Refuses.optional {parser : Parser α} {next : Text} (h : Refuses parser next) :
    Settles parser.optional none [] next := by
  intro rounds source after place hahead
  obtain ⟨reached, hrun⟩ := h rounds source after place hahead
  rcases run_optional_cases parser rounds source place with
    ⟨a, middle, hp, -⟩ | ⟨middle, -, ho⟩ | ⟨cause, middle, hp, -⟩
  · rw [hp] at hrun
    cases hrun
  · exact ho
  · rw [hp] at hrun
    cases hrun

/-- One of several alternatives is settled if all the others refuse the text. -/
theorem Settles.oneOf {ι : Type} {alternative : ι → Parser α} {index : ι} {indices : List ι}
    {value : α} {piece next : Text} (h : Settles (alternative index) value piece next)
    (hmem : index ∈ indices)
    (hothers : ∀ i ∈ indices, i ≠ index → Refuses (alternative i) (piece ++ next)) :
    Settles (oneOf (indices.map alternative)) value piece next := by
  intro rounds source after place hahead
  have hrun := h rounds source after place hahead
  rw [← hrun]
  -- earlier and later alternatives need not be told apart, as all the others reject
  refine run_oneOf_of_others hmem (fun reached hreject => ?_) fun i hi hne => ?_
  · rw [hrun] at hreject
    cases hreject
  · refine hothers i hi hne rounds source after place ?_
    rw [hahead, List.append_assoc]

/-! ## What is refused -/

/-- What demands an opening rejects in front of every text without it. -/
theorem Demands.reject {parser : Parser α} {opening ahead : Text} (h : Demands parser opening)
    (rounds : Nat) {source : Text} {offset : Int} (hahead : Text.unread source offset = some ahead)
    (hopening : ¬ opening <+: ahead) :
    ∃ reached, parser.run rounds source offset = ⟨.reject, reached⟩ := by
  apply h rounds source offset
  intro other hother
  rw [hahead] at hother
  cases hother
  exact hopening

/-- What demands an opening refuses every text from which the opening diverges. -/
theorem Demands.refuses {parser : Parser α} {opening next : Text} (h : Demands parser opening)
    (hdiverge : Text.Diverge opening next) : Refuses parser next := by
  intro rounds source after place hahead
  exact h.reject rounds hahead (hdiverge.not_prefix_append after)

/-- A chain demands what its first part demands. -/
theorem Demands.bind {first : Parser α} {opening : Text} (h : Demands first opening)
    (more : α → Parser β) : Demands (first >>= more) opening := by
  intro rounds source offset hopening
  exact run_bind_of_reject (h rounds source offset hopening)

/-- A fixed text demands its own beginnings. -/
theorem demands_literal {text opening : Text} (h : opening <+: text) :
    Demands (literal text) opening := by
  intro rounds source offset hopening
  refine ⟨offset, ?_⟩
  rcases hahead : Text.unread source offset with _ | ahead
  · simp only [literal, hahead]
  · have hp : ¬ text.isPrefixOf ahead = true := by
      rw [List.isPrefixOf_iff_prefix]
      exact fun hp => hopening ahead hahead (h.trans hp)
    simp only [literal, hahead, if_neg hp]

/-- A token demands every beginning of its text. -/
theorem demands_token {text opening : Text} (h : opening <+: text) :
    Demands (token text) opening :=
  (demands_literal h).bind _

/-- A chain refuses what its first part refuses. -/
theorem Refuses.bind {first : Parser α} {next : Text} (h : Refuses first next)
    (more : α → Parser β) : Refuses (first >>= more) next := by
  intro rounds source after place hahead
  exact run_bind_of_reject (h rounds source after place hahead)

/-- A token refuses every text that differs from it before either ends. -/
theorem refuses_token {text next : Text} (h : Text.Diverge text next) :
    Refuses (token text) next :=
  (demands_token List.prefix_rfl).refuses h

/-- What is refused stays refused when more is known of what follows. -/
theorem Refuses.append {parser : Parser α} {next : Text} (h : Refuses parser next)
    (more : Text) : Refuses parser (next ++ more) := by
  intro rounds source after place hahead
  exact h rounds source (more ++ after) place (by rw [hahead, List.append_assoc])

/-- A choice refuses what all of its alternatives refuse. -/
theorem Refuses.oneOf {alternatives : List (Parser α)} {next : Text}
    (h : ∀ alternative ∈ alternatives, Refuses alternative next) :
    Refuses (oneOf alternatives) next := by
  intro rounds source after place hahead
  refine ⟨place, run_oneOf_of_reject fun alternative hmem => ?_⟩
  exact h alternative hmem rounds source after place hahead

end Famix.Parser
