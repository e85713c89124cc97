/-
The fields of records: what their parsers read, and which texts settle them.

For every field there is a pair of lemmas. The `reads_` lemma says that what the parser
accepts is a text of the field, and the `settles_` lemma that a text of the field is
accepted whatever follows it. A separator is the one part whose end depends on what
follows, so what stands behind a separator has to begin with a parenthesis (`Opens`).
-/
import Famix.Grammar.Model
import Famix.Proofs.Judgement
import Famix.Proofs.RecordText

set_option autoImplicit false

namespace Famix.Grammar

open Famix.Parser

variable {α : Type}

/-! ## What begins with a parenthesis -/

/-- A text begins with an opening parenthesis. -/
def Opens (text : Text) : Prop := ∃ rest, text = '(' :: rest

/-- Only the first character counts. -/
theorem Opens.append {text : Text} (h : Opens text) (more : Text) : Opens (text ++ more) := by
  obtain ⟨rest, rfl⟩ := h
  exact ⟨rest ++ more, rfl⟩

/-- A field with a number opens if its opening text does. -/
theorem NumberText.opens {numeral : Text → Int → Prop} {opening closing t : Text} {n : Int}
    (h : NumberText numeral opening closing n t) (hopening : Opens opening) : Opens t := by
  obtain ⟨digits, junk, -, -, -⟩ := h
  exact hopening.append _

/-- The field of an id opens. -/
theorem IdText.opens {numeral : Text → Int → Prop} {tag t : Text} {n : Int}
    (h : IdText numeral tag n t) : Opens t :=
  NumberText.opens h (Opens.append (Opens.append ⟨_, rfl⟩ _) _)

/-- The field of a reference opens. -/
theorem RefText.opens {numeral : Text → Int → Prop} {tag t : Text} {n : Int}
    (h : RefText numeral tag n t) : Opens t :=
  NumberText.opens h (Opens.append (Opens.append ⟨_, rfl⟩ _) _)

/-- The field of the lines of code opens. -/
theorem LocText.opens {numeral : Text → Int → Prop} {t : Text} {n : Int}
    (h : LocText numeral n t) : Opens t :=
  NumberText.opens h ⟨_, rfl⟩

/-- The field of a signature opens. -/
theorem SignatureText.opens {signature t : Text} (h : SignatureText signature t) : Opens t := by
  obtain ⟨junk, -, -⟩ := h
  exact Opens.append ⟨_, rfl⟩ _

/-- A row opens if its first item does. -/
theorem Row.opens {item : α → Text → Prop} {gap : Text → Prop} {values : List α} {t : Text}
    (h : Row item gap values t) (hitem : ∀ value t, item value t → Opens t) : Opens t := by
  cases h with
  | last hvalue => exact hitem _ _ hvalue
  | cons hvalue _ _ => exact (hitem _ _ hvalue).append _

/-! ## Separators -/

/-- What is read as spaces is some number of them, perhaps none. -/
theorem reads_spaces : Reads spaces fun _ piece _ => ∃ count, piece = List.replicate count ' ' := by
  refine ((reads_takeWhile _).bind fun _ => reads_pure ()).mono ?_
  rintro _ _ rest ⟨run, _, _, rfl, ⟨rfl, hspaces, -⟩, -, rfl⟩
  refine ⟨run.length, ?_⟩
  rw [List.append_nil]
  exact List.eq_replicate_of_mem fun c hc => by simpa using hspaces c hc

/-- A separator is a newline and the spaces behind it. -/
theorem reads_separator : Reads separator fun _ piece _ => SeparatorText piece := by
  refine ((reads_token _).bind fun _ => reads_spaces).mono ?_
  rintro _ _ rest ⟨_, p, q, rfl, rfl, count, rfl⟩
  exact .intro count

/-- Spaces end in front of a parenthesis. -/
theorem settles_spaces (count : Nat) {next : Text} (hnext : Opens next) :
    Settles spaces () (List.replicate count ' ') next := by
  obtain ⟨rest, rfl⟩ := hnext
  refine (settles_takeWhile (fun c hc => ?_) rfl).value fun _ => ()
  simp [List.eq_of_mem_replicate hc]

/-- A separator ends in front of a parenthesis. -/
theorem settles_separator {s next : Text} (hs : SeparatorText s) (hnext : Opens next) :
    Settles separator () s next := by
  obtain ⟨count⟩ := hs
  exact (settles_token "\n".toList _).bind (settles_spaces count hnext)

/-- What does not begin with a newline is no separator. -/
theorem refuses_separator {next : Text} (h : Text.Diverge "\n".toList next) :
    Refuses separator next :=
  (refuses_token h).bind _

/-- A field with a separator behind it reads a text of the field and a separator. -/
theorem reads_thenSeparator {field : Parser α} {language : α → Text → Prop}
    (h : Reads field fun value piece _ => language value piece) :
    Reads (thenSeparator field) fun value piece _ =>
      ∃ p s, piece = p ++ s ∧ language value p ∧ SeparatorText s := by
  refine (h.bind fun a => reads_separator.bind fun _ => reads_pure a).mono ?_
  rintro _ _ rest ⟨a, p, _, rfl, hp, _, s, _, rfl, hs, rfl, rfl⟩
  exact ⟨p, s, by rw [List.append_nil], hp, hs⟩

/-- A text of a field and a separator settle the two, if a parenthesis follows. The field must be
settled in front of anything, as the separator is all it has in view. -/
theorem settles_thenSeparator {field : Parser α} {value : α} {p s next : Text}
    (h : ∀ behind, Settles field value p behind) (hs : SeparatorText s) (hnext : Opens next) :
    Settles (thenSeparator field) value (p ++ s) next :=
  (h _).bind ((settles_separator hs hnext).value fun _ => value)

/-- A field that closes its record reads a text of the field and a parenthesis. -/
theorem reads_thenClose {field : Parser α} {language : α → Text → Prop}
    (h : Reads field fun value piece _ => language value piece) :
    Reads (thenClose field) fun value piece _ =>
      ∃ p, piece = p ++ ")".toList ∧ language value p := by
  refine (h.bind fun a => (reads_token ")".toList).bind fun _ => reads_pure a).mono ?_
  rintro _ _ rest ⟨a, p, _, rfl, hp, _, _, _, rfl, rfl, rfl, rfl⟩
  exact ⟨p, by rw [List.append_nil], hp⟩

/-- A text of a field and the closing parenthesis are settled in front of anything. -/
theorem settles_thenClose {field : Parser α} {value : α} {p : Text}
    (h : ∀ behind, Settles field value p behind) (next : Text) :
    Settles (thenClose field) value (p ++ ")".toList) next :=
  (h _).bind ((settles_token ")".toList next).value fun _ => value)

/-! ## Fields with a number -/

/-- The parser behind every field with a number. -/
def numberField (opening closing : Text) : Parser Int := do
  token opening
  let n ← number
  let _ ← through closing
  pure n

/-- A reference is a field with a number that closes with two parentheses. -/
theorem refField_eq (tag : Text) :
    refField tag = numberField ("(".toList ++ tag ++ " (ref: ".toList) "))".toList := rfl

/-- An id is a field with a number that closes with one parenthesis, as the record goes on. -/
theorem entityId_eq (tag : Text) :
    entityId tag = numberField ("(FAMIX.".toList ++ tag ++ " (id: ".toList) ")".toList := rfl

/-- The lines of code are a field with a number that closes the record too. -/
theorem locField_eq : locField = numberField "(LOC ".toList "))".toList := rfl

/-- A field with a number reads its opening, a readable numeral, junk that does not begin with a
digit, and the closing where it first occurs behind the numeral. -/
theorem reads_numberField (opening closing : Text) :
    Reads (numberField opening closing) fun n piece _ =>
      NumberText IsReadable opening closing n piece := by
  refine ((reads_token opening).bind fun _ => reads_number.bind fun n =>
    (reads_through closing).bind fun _ => reads_pure (n : Int)).mono ?_
  rintro _ _ rest ⟨_, _, _, rfl, rfl, _, digits, _, rfl,
    ⟨rfl, hne, hdigits, hlen, hstop⟩, _, _, _, rfl, ⟨rfl, ⟨⟨junk, rfl⟩, hfirst⟩⟩, rfl, rfl⟩
  rw [List.append_nil] at hstop ⊢
  refine ⟨digits, junk, ⟨⟨hne, hdigits, rfl⟩, hlen⟩, fun c hc => hstop c ?_, ⟨junk, rfl⟩, hfirst⟩
  -- the first character of the junk, if there is one, is the one behind the digits
  cases junk with
  | nil => cases hc
  | cons d junk => exact hc

/-- What is read as a reference is a text of a reference with that number. -/
theorem reads_refField (tag : Text) :
    Reads (refField tag) fun n piece _ => RefText IsReadable tag n piece :=
  reads_numberField _ _

/-- What is read as an id is a text of an id with that number. -/
theorem reads_entityId (tag : Text) :
    Reads (entityId tag) fun n piece _ => IdText IsReadable tag n piece :=
  reads_numberField _ _

/-- What is read as a tag is the text of the tag. -/
theorem reads_entityTag (tag : Text) :
    Reads (entityTag tag) fun _ piece _ => piece = tagText tag :=
  reads_token _

/-- What is read as lines of code is a text of that field with that number. -/
theorem reads_locField : Reads locField fun n piece _ => LocText IsReadable n piece :=
  reads_numberField _ _

/-- A text of a field with a number is read, since neither the junk nor the closing
prolongs the numeral. -/
theorem settles_numberField {opening closing t : Text} {n : Int}
    (h : NumberText IsReadable opening closing n t) {c : Char} {closing' : Text}
    (hclosing : closing = c :: closing') (hc : c.isDigit = false) (next : Text) :
    Settles (numberField opening closing) n t next := by
  obtain ⟨digits, junk, ⟨⟨hne, hdigits, rfl⟩, hlen⟩, hjunk, hends⟩ := h
  have hnumber : Settles number (Text.decimalValue digits) digits ((junk ++ closing) ++ next) := by
    -- the digits end at the junk or, if there is none, at the closing
    cases junk with
    | nil =>
      subst hclosing
      exact settles_number hne hdigits hlen hc
    | cons d junk => exact settles_number hne hdigits hlen (hjunk d rfl)
  exact (settles_token opening _).bind
    (hnumber.bind ((settles_through hends next).value fun _ => (Text.decimalValue digits : Int)))

/-- A text of a reference is read in front of anything. -/
theorem settles_refField {tag t : Text} {n : Int} (h : RefText IsReadable tag n t) (next : Text) :
    Settles (refField tag) n t next := by
  rw [refField_eq]
  exact settles_numberField h rfl rfl next

/-- A text of an id is read in front of anything. -/
theorem settles_entityId {tag t : Text} {n : Int} (h : IdText IsReadable tag n t) (next : Text) :
    Settles (entityId tag) n t next := by
  rw [entityId_eq]
  exact settles_numberField h rfl rfl next

/-- A text of the lines of code is read in front of anything. -/
theorem settles_locField {t : Text} {n : Int} (h : LocText IsReadable n t) (next : Text) :
    Settles locField n t next := by
  rw [locField_eq]
  exact settles_numberField h rfl rfl next

/-! ## Names and signatures -/

/-- The quote ends a run of characters that may be quoted. -/
theorem quotable_iff {c : Char} : quotable c = true ↔ c ≠ '\'' := by
  simp [quotable]

/-- What is read as a name is a text of a name field, with spaces in front if there were any. -/
theorem reads_nameField : Reads nameField fun name piece _ => NameText name piece := by
  refine (reads_spaces.bind fun _ => (reads_token _).bind fun _ =>
    (reads_takeWhile quotable).bind fun name => (reads_token _).bind fun _ =>
      reads_pure name).mono ?_
  rintro _ _ rest ⟨_, _, _, rfl, ⟨count, rfl⟩, _, _, _, rfl, rfl, _, name, _, rfl,
    ⟨rfl, hname, -⟩, _, _, _, rfl, rfl, rfl, rfl⟩
  rw [List.append_nil]
  exact .intro count fun hmem => quotable_iff.mp (hname _ hmem) rfl

/-- Spaces behind a separator belong to it, so a name behind one can be taken to begin with
its parenthesis. -/
theorem NameText.tighten {name s b : Text} (hs : SeparatorText s) (hb : NameText name b) :
    ∃ s' b', SeparatorText s' ∧ NameText name b' ∧ Opens b' ∧ s ++ b = s' ++ b' := by
  obtain ⟨count⟩ := hs
  obtain ⟨count', hname⟩ := hb
  -- the spaces of the name are added to those of the separator
  refine ⟨_, _, .intro (count + count'), .intro 0 hname, ⟨_, rfl⟩, ?_⟩
  rw [← List.replicate_append_replicate, List.replicate_zero, List.nil_append,
    ← List.cons_append, List.append_assoc]

/-- A text of a name is read in front of anything, since the name ends at its quote. -/
theorem settles_nameField {name b : Text} (h : NameText name b) (next : Text) :
    Settles nameField name b next := by
  obtain ⟨count, hname⟩ := h
  refine (settles_spaces count ⟨_, rfl⟩).bind ((settles_token _ _).bind
    ((settles_takeWhile (fun c hc => ?_) rfl).bind
      ((settles_token "')".toList next).value fun _ => name)))
  exact quotable_iff.mpr fun hc' => hname (hc' ▸ hc)

/-- What is read as a signature is a text of a signature, with whatever stood between the quote and
the parenthesis as junk. -/
theorem reads_signatureField :
    Reads signatureField fun signature piece _ => SignatureText signature piece := by
  refine ((reads_token _).bind fun _ => (reads_takeWhile quotable).bind fun signature =>
    (reads_through ")".toList).bind fun _ => reads_pure signature).mono ?_
  rintro _ _ rest ⟨_, _, _, rfl, rfl, _, signature, _, rfl, ⟨rfl, hsignature, hstop⟩, _, w, _,
    rfl, ⟨rfl, hends⟩, rfl, rfl⟩
  -- nothing in the parser asks for the second quote: that there is one follows from where the run
  -- of the signature has stopped
  rw [List.append_nil] at hstop ⊢
  obtain ⟨lead, rfl⟩ := hends.1
  have hlead : ')' ∉ lead := Text.endsAtFirst_singleton.mp hends
  -- the run of the signature has ended at a quote, which is the first thing behind it
  cases lead with
  | nil => exact absurd (hstop ')' rfl) (by decide)
  | cons c junk =>
    have hc : c = '\'' := by
      by_contra hc
      exact absurd (quotable_iff.mpr hc) (by simp [hstop c rfl])
    subst hc
    exact .intro junk (fun hmem => quotable_iff.mp (hsignature _ hmem) rfl)
      fun hmem => hlead (List.mem_cons_of_mem _ hmem)

/-- A text of a signature is read in front of anything, since its junk holds no parenthesis. -/
theorem settles_signatureField {signature t : Text} (h : SignatureText signature t)
    (next : Text) : Settles signatureField signature t next := by
  obtain ⟨junk, hsignature, hjunk⟩ := h
  have hends : Text.EndsAtFirst ")".toList ('\'' :: junk ++ ")".toList) := by
    refine Text.endsAtFirst_singleton.mpr fun hmem => ?_
    rcases List.mem_cons.mp hmem with hquote | hmem
    · exact absurd hquote (by decide)
    · exact hjunk hmem
  refine (settles_token _ _).bind ((settles_takeWhile (fun c hc => ?_) rfl).bind
    ((settles_through hends next).value fun _ => signature))
  exact quotable_iff.mpr fun hc' => hsignature (hc' ▸ hc)

end Famix.Grammar
