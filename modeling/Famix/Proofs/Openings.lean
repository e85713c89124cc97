/-
How many records begin in a text, and how many are read from it.

A record begins where its mark stands outside of quotes. One would expect as many records to
be read from a text that matches as there are such places, and so it is if what the fields skip
holds neither a mark nor a quote (`openings_eq_length`). Without that condition it is not: a
reference whose parentheses are missing goes on to the parentheses of a later record, and what
lies between is skipped (`readModel_swallows`).

The count is additive along a text as long as no mark lies across the cut, and that is told from
one side of the cut: the text before it cannot be the beginning of a mark (`Sealed`), or the
text behind it cannot be the end of one (`Parted`).
-/
import Famix.Proofs.Layout
import Mathlib.Algebra.Group.Nat.Even
import Mathlib.Algebra.GroupWithZero.Nat

set_option autoImplicit false

namespace Famix

open Grammar

/-! ## Places where a record begins -/

/-- What every record begins with. -/
def recordMark : Text := "(FAMIX.".toList

/-- A record begins at a place of a text with `quotes` quotes in front of it: the mark stands
there, and the quotes before it are even in number, so it is not quoted itself. -/
def OpensAt (quotes : Nat) (text : Text) (place : Nat) : Prop :=
  recordMark <+: text.drop place ∧ Even (quotes + (text.take place).count '\'')

instance (quotes : Nat) (text : Text) (place : Nat) : Decidable (OpensAt quotes text place) :=
  inferInstanceAs (Decidable (_ ∧ _))

/-- The number of places where a record begins in a text with `quotes` quotes in front of it. -/
def openingsAfter (quotes : Nat) (text : Text) : Nat :=
  (List.range text.length).countP fun place => decide (OpensAt quotes text place)

/-- The number of places where a record begins in a text. -/
def openings (text : Text) : Nat := openingsAfter 0 text

/-! ## Texts cut in two -/

/-- No mark begins in a text and ends behind it. -/
def Sealed (text : Text) : Prop := ∀ place < text.length, ¬ text.drop place <+: recordMark

instance (text : Text) : Decidable (Sealed text) :=
  inferInstanceAs (Decidable (∀ _ < _, _))

/-- No mark ends in a text and begins before it. -/
def Parted (text : Text) : Prop := ∀ c ∈ text.head?, c ∉ recordMark.tail

theorem parted_cons {c : Char} (h : c ∉ recordMark.tail) (text : Text) : Parted (c :: text) := by
  intro d hd
  rw [List.head?_cons, Option.mem_some_iff] at hd
  rwa [← hd]

/-- What closes a field is no end of a mark. -/
theorem parted_close : Parted ")".toList ∧ Parted "))".toList :=
  ⟨parted_cons (by decide) _, parted_cons (by decide) _⟩

theorem sealed_of_not_mem {text : Text} (h : '(' ∉ text) : Sealed text := by
  intro place hplace hprefix
  obtain ⟨c, rest, hdrop⟩ := List.exists_cons_of_length_pos
    (l := text.drop place) (by rw [List.length_drop]; omega)
  rw [hdrop] at hprefix
  have hc : c = '(' := (List.cons_prefix_cons.mp hprefix).1
  exact h (List.mem_of_mem_drop (by rw [hdrop, hc]; exact List.mem_cons_self))

/-- A mark that begins before a cut lies before it, if the cut is clean on one side. -/
theorem prefix_of_prefix_append {lead more : Text} (hlead : lead ≠ [])
    (h : recordMark <+: lead ++ more) (hcut : ¬ lead <+: recordMark ∨ Parted more) :
    recordMark <+: lead := by
  rcases List.prefix_or_prefix_of_prefix h (List.prefix_append lead more) with hin | hin
  · exact hin
  · rcases hcut with hcut | hcut
    · exact absurd hin hcut
    · -- what is missing of the mark would stand behind the cut
      obtain ⟨missing, hmark⟩ := hin
      rw [← hmark, List.prefix_append_right_inj] at h
      cases missing with
      | nil =>
        rw [List.append_nil] at hmark
        rw [hmark]
      | cons c missing =>
        obtain ⟨rest, rfl⟩ := h
        refine absurd ?_ (hcut c (by simp))
        rw [← hmark, List.tail_append_of_ne_nil hlead]
        simp

/-- The places where a record begins in two texts together. -/
theorem openingsAfter_append {quotes : Nat} {text more : Text}
    (hcut : Sealed text ∨ Parted more) :
    openingsAfter quotes (text ++ more) =
      openingsAfter quotes text + openingsAfter (quotes + text.count '\'') more := by
  rw [openingsAfter, List.length_append, List.range_add, List.countP_append, List.countP_map]
  congr 1
  · -- a mark that begins before the cut does not need what stands behind it
    refine List.countP_congr fun place hplace => ?_
    rw [List.mem_range] at hplace
    have hle : place ≤ text.length := Nat.le_of_lt hplace
    rw [decide_eq_true_iff, decide_eq_true_iff, OpensAt, OpensAt,
      List.drop_append_of_le_length hle, List.take_append_of_le_length hle]
    refine and_congr_left fun _ => ⟨fun h => ?_, fun h => h.trans (List.prefix_append _ _)⟩
    refine prefix_of_prefix_append ?_ h (hcut.imp_left fun hsealed => hsealed place hplace)
    exact List.ne_nil_of_length_pos (by rw [List.length_drop]; omega)
  · -- behind the cut the quotes of the first text count as well
    refine List.countP_congr fun place _ => ?_
    rw [Function.comp_apply, decide_eq_true_iff, decide_eq_true_iff, OpensAt, OpensAt,
      List.drop_length_add_append, List.take_length_add_append, List.count_append, Nat.add_assoc]

/-- Only whether the quotes in front of a text are even in number matters. -/
theorem openingsAfter_add_even {quotes more : Nat} (h : Even more) (text : Text) :
    openingsAfter (quotes + more) text = openingsAfter quotes text := by
  refine List.countP_congr fun place _ => ?_
  rw [decide_eq_true_iff, decide_eq_true_iff, OpensAt, OpensAt, Nat.add_right_comm]
  exact and_congr_right fun _ => Nat.even_add.trans (iff_true_right h)

/-- No record begins in a text without a mark. -/
theorem openingsAfter_of_not_infix {quotes : Nat} {text : Text} (h : ¬ recordMark <:+: text) :
    openingsAfter quotes text = 0 := by
  refine List.countP_eq_zero.mpr fun place _ hopens => h ?_
  exact (of_decide_eq_true hopens).1.isInfix.trans (List.drop_suffix place text).isInfix

/-- No record begins in quotes. -/
theorem openingsAfter_of_quoted {quotes : Nat} {text : Text} (hodd : ¬ Even quotes)
    (hquote : '\'' ∉ text) : openingsAfter quotes text = 0 := by
  refine List.countP_eq_zero.mpr fun place _ hopens => hodd ?_
  have heven := (of_decide_eq_true hopens).2
  rwa [List.count_eq_zero_of_not_mem fun hmem => hquote (List.mem_of_mem_take hmem)] at heven

/-! ## Counting piece by piece -/

/-- A text whose quotes are closed, and in which `n` records begin. -/
structure Counts (text : Text) (n : Nat) : Prop where
  even : Even (text.count '\'')
  openings : openings text = n

instance (text : Text) (n : Nat) : Decidable (Counts text n) :=
  decidable_of_iff (Even (text.count '\'') ∧ Famix.openings text = n)
    ⟨fun h => ⟨h.1, h.2⟩, fun h => ⟨h.even, h.openings⟩⟩

theorem Counts.append {text more : Text} {m n : Nat} (h : Counts text m) (hmore : Counts more n)
    (hcut : Sealed text ∨ Parted more) : Counts (text ++ more) (m + n) := by
  refine ⟨?_, ?_⟩
  · rw [List.count_append]
    exact h.even.add hmore.even
  · rw [Famix.openings, openingsAfter_append hcut, openingsAfter_add_even h.even, ← hmore.openings,
      ← h.openings]
    rfl

/-- What holds neither a quote nor a mark. -/
def Harmless (text : Text) : Prop := '\'' ∉ text ∧ ¬ recordMark <:+: text

theorem Harmless.counts {text : Text} (h : Harmless text) : Counts text 0 :=
  ⟨by rw [List.count_eq_zero_of_not_mem h.1]; exact Even.zero, openingsAfter_of_not_infix h.2⟩

/-- A mark begins with a parenthesis. -/
theorem harmless_of_not_mem {text : Text} (hquote : '\'' ∉ text) (hopen : '(' ∉ text) :
    Harmless text :=
  ⟨hquote, fun hin => hopen (hin.subset (by decide))⟩

/-- Quoted text counts for nothing, whatever it holds. -/
theorem counts_quoted {lead content rest : Text} {n : Nat} (hsealed : Sealed lead)
    (hodd : ¬ Even (lead.count '\'')) (hlead : openings lead = 0) (hcontent : '\'' ∉ content)
    (hrest : Counts rest n) : Counts (lead ++ (content ++ ("'".toList ++ rest))) n := by
  have hnone : content.count '\'' = 0 := List.count_eq_zero_of_not_mem hcontent
  have hone : "'".toList.count '\'' = 1 := by decide
  have heven : Even (lead.count '\'' + 1) := Nat.even_add_one.mpr hodd
  have hquote : Parted ("'".toList ++ rest) := parted_cons (by decide) rest
  refine ⟨?_, ?_⟩
  · rw [List.count_append, List.count_append, List.count_append, hnone, hone, Nat.zero_add,
      ← Nat.add_assoc]
    exact heven.add hrest.even
  · have hzero : openingsAfter (lead.count '\'') "'".toList = 0 :=
      openingsAfter_of_not_infix (by decide)
    rw [openings] at hlead
    rw [openings, openingsAfter_append (.inl hsealed), openingsAfter_append (.inr hquote),
      openingsAfter_append (.inl (by decide)), hnone, hone, Nat.zero_add, Nat.add_zero, hlead,
      openingsAfter_of_quoted hodd hcontent, hzero, ← Nat.zero_add (_ + 1),
      openingsAfter_add_even heven, Nat.zero_add, Nat.zero_add, Nat.zero_add]
    exact hrest.openings

/-! ## Records and models -/

namespace Grammar

/-- Pieces whose quotes are closed, and in which `n` records begin altogether. -/
structure CountsAll (pieces : List Text) (n : Nat) : Prop where
  each : ∀ piece ∈ pieces, Counts piece (openings piece)
  sum : (pieces.map openings).sum = n

theorem countsAll_nil : CountsAll [] 0 := ⟨nofun, rfl⟩

theorem CountsAll.cons {piece : Text} {pieces : List Text} {m n : Nat} (h : Counts piece m)
    (hpieces : CountsAll pieces n) : CountsAll (piece :: pieces) (m + n) := by
  refine ⟨List.forall_mem_cons.mpr ⟨⟨h.even, rfl⟩, hpieces.each⟩, ?_⟩
  rw [List.map_cons, List.sum_cons, h.openings, hpieces.sum]

/-- The openings in a row are those in its items: a separator is neither the beginning nor the
end of a mark. -/
theorem Row.counts {α : Type} {item : α → Text → Prop} {weight : α → Nat} {values : List α}
    {t : Text} (h : Row item SeparatorText values t)
    (hitem : ∀ value ∈ values, ∀ t, item value t → Counts t (weight value)) :
    Counts t (values.map weight).sum := by
  induction h with
  | last h => exact hitem _ List.mem_cons_self _ h
  | @cons value values t s rest h hs hrest ih =>
    obtain ⟨count⟩ := hs
    have hspaces : Harmless ('\n' :: List.replicate count ' ') :=
      harmless_of_not_mem (by simp [List.mem_replicate]) (by simp [List.mem_replicate])
    have hsealed : Sealed ('\n' :: List.replicate count ' ') :=
      sealed_of_not_mem (by simp [List.mem_replicate])
    have hparted : Parted ('\n' :: List.replicate count ' ' ++ rest) := parted_cons (by decide) _
    have hrest := ih fun other hother => hitem other (List.mem_cons_of_mem value hother)
    rw [List.map_cons, List.sum_cons, ← Nat.zero_add (List.sum _)]
    exact (hitem value List.mem_cons_self t h).append (hspaces.counts.append hrest (.inl hsealed))
      (.inr hparted)

theorem FigureText.counts {opening closing t : Text} {n : Int} {count : Nat}
    (h : FigureText IsReadable Harmless opening closing n t) (hopening : Counts opening count)
    (hsealed : Sealed opening) (hclosing : Counts closing 0) (hparted : Parted closing) :
    Counts t count := by
  obtain ⟨digits, junk, ⟨⟨-, hdigits, -⟩, -⟩, -, -, hjunk⟩ := h
  have hdigit : ∀ c, c.isDigit = false → c ∉ digits := fun c hc hmem =>
    absurd (hdigits c hmem) (by simp [hc])
  have hharmless : Harmless digits :=
    harmless_of_not_mem (hdigit _ (by decide)) (hdigit _ (by decide))
  have hrest := hharmless.counts.append (hjunk.counts.append hclosing (.inr hparted))
    (.inl (sealed_of_not_mem (hdigit _ (by decide))))
  exact hopening.append hrest (.inl hsealed)

theorem counts_nameText {name : Text} (h : '\'' ∉ name) : Counts (nameText name) 0 := by
  have hlead : Sealed "(name '".toList := by decide
  have hclose : Counts ")".toList 0 := by decide
  exact counts_quoted hlead (by decide) (by decide) h hclose

theorem QuotedSignature.counts {signature t : Text}
    (h : QuotedSignature Harmless signature t) : Counts t 0 := by
  obtain ⟨junk, hsignature, -, hjunk⟩ := h
  have hlead : Sealed "(signature '".toList := by decide
  have hclose : Counts ")".toList 0 := by decide
  exact counts_quoted hlead (by decide) (by decide) hsignature
    (hjunk.counts.append hclose (.inr parted_close.1))

/-- A record that skips nothing harmful begins once. -/
theorem RecordPieces.counts {entity : Entity} {pieces : List Text}
    (h : RecordPieces IsReadable Harmless entity pieces) : CountsAll pieces 1 := by
  have hclose : ∀ {piece n}, Counts piece n → Counts (piece ++ ")".toList) n :=
    fun hpiece => hpiece.append (by decide : Counts ")".toList 0) (.inr parted_close.1)
  have hopen : ∀ {tag n t}, IdFigure IsReadable Harmless tag n t →
      Counts (tagText tag ++ " (id: ".toList) 1 →
      Sealed (tagText tag ++ " (id: ".toList) → Counts t 1 :=
    fun h hopening hsealed => FigureText.counts h hopening hsealed (by decide) parted_close.1
  have href : ∀ {tag n t}, RefFigure IsReadable Harmless tag n t →
      Counts ("(".toList ++ tag ++ " (ref: ".toList) 0 →
      Sealed ("(".toList ++ tag ++ " (ref: ".toList) → Counts t 0 :=
    fun h hopening hsealed => FigureText.counts h hopening hsealed (by decide) parted_close.2
  cases h with
  | namespaceRecord hid hname =>
    have hid := hopen hid (by decide) (by decide)
    exact .cons hid (.cons (hclose (counts_nameText hname)) countsAll_nil)
  | packageRecord hid hname =>
    have hid := hopen hid (by decide) (by decide)
    exact .cons hid (.cons (hclose (counts_nameText hname)) countsAll_nil)
  | childPackageRecord hid hname hparent =>
    have hid := hopen hid (by decide) (by decide)
    have hparent := hclose (href hparent (by decide) (by decide))
    exact .cons hid (.cons (counts_nameText hname) (.cons hparent countsAll_nil))
  | classRecord hid hname hcontainer hparent =>
    have hid := hopen hid (by decide) (by decide)
    have hcontainer := href hcontainer (by decide) (by decide)
    have hparent := hclose (href hparent (by decide) (by decide))
    exact .cons hid (.cons (counts_nameText hname)
      (.cons hcontainer (.cons hparent countsAll_nil)))
  | methodRecord hname hsignature hparent hloc =>
    have hparent := href hparent (by decide) (by decide)
    have hloc := FigureText.counts hloc (by decide : Counts _ 0) (by decide) (by decide)
      parted_close.2
    exact .cons (by decide : Counts _ 1) (.cons (counts_nameText hname)
      (.cons hsignature.counts (.cons hparent (.cons hloc countsAll_nil))))
  | attributeRecord hname hparent =>
    have hparent := hclose (href hparent (by decide) (by decide))
    exact .cons (by decide : Counts _ 1) (.cons (counts_nameText hname)
      (.cons hparent countsAll_nil))
  | inheritanceRecord hsub hsuper =>
    have hsub := href hsub (by decide) (by decide)
    have hsuper := hclose (href hsuper (by decide) (by decide))
    exact .cons (by decide : Counts _ 1) (.cons hsub (.cons hsuper countsAll_nil))

theorem RecordLayout.counts {entity : Entity} {t : Text}
    (h : RecordLayout IsReadable Harmless entity t) : Counts t 1 := by
  obtain ⟨pieces, hpieces, hrow⟩ := h
  obtain ⟨heach, hsum⟩ := hpieces.counts
  have hcounts : Counts t (pieces.map openings).sum :=
    hrow.counts fun piece hpiece t ht => ht ▸ heach piece hpiece
  rwa [hsum] at hcounts

/-- As many records begin in a model that skips nothing harmful as there are records. -/
theorem ModelLayout.counts {entities : List Entity} {c : Text}
    (h : ModelLayout IsReadable Harmless entities c) : Counts c entities.length := by
  obtain ⟨t, rfl, ⟨rfl, rfl⟩ | hrow⟩ := h
  · decide
  · have hcounts : Counts t (entities.map fun _ => 1).sum :=
      hrow.counts fun _ _ _ hrecord => hrecord.counts
    rw [List.map_const', List.sum_replicate_nat, Nat.mul_one] at hcounts
    obtain ⟨rest, rfl⟩ := hrow.opens fun _ _ hrecord => hrecord.recordText.opens
    have hclosed := hcounts.append (by decide : Counts ")".toList 0) (.inr parted_close.1)
    have hopened := (by decide : Counts "(".toList 0).append hclosed
      (.inr (parted_cons (by decide) _))
    rwa [Nat.zero_add, Nat.add_zero] at hopened

end Grammar

/-! ## What is read -/

/-- What the fields of a text skip is harmless: the text is a layout of a model in which that
is so. -/
def SkipsHarmlessly (c : Text) : Prop := ∃ entities, ModelLayout IsReadable Harmless entities c

/-- **Nothing swallowed.** If a text matches and what its fields skip holds neither a quote nor
a mark, as many records are read as begin in the text that was consumed. -/
theorem openings_eq_length {c remainder : Text} {entities : List Entity}
    (hread : readModel (c ++ remainder) = .ok ⟨entities, true, remainder⟩)
    (hskips : SkipsHarmlessly c) : openings c = entities.length := by
  obtain ⟨others, hlayout⟩ := hskips
  -- the text alone decides which records are read
  have hsame : readModel (c ++ remainder) = .ok ⟨others, true, remainder⟩ :=
    readModel_eq_matched_iff.mpr ⟨c, rfl, hlayout.modelText⟩
  rw [hread] at hsame
  cases hsame
  exact hlayout.counts.openings

/-- A mark in a name is no opening, and a space behind a number is harmless. -/
theorem openings_of_quoted_mark :
    ∃ c : Text, c = "((FAMIX.Attribute\n(name '(FAMIX.')\n (parentType (ref: 2 ))))".toList ∧
      readModel (c ++ "\n".toList) =
        .ok ⟨[.attributeRecord "(FAMIX.".toList 2], true, "\n".toList⟩ ∧
      SkipsHarmlessly c ∧ openings c = 1 := by
  obtain ⟨c, hc⟩ : ∃ c : Text,
    c = "((FAMIX.Attribute\n(name '(FAMIX.')\n (parentType (ref: 2 ))))".toList := ⟨_, rfl⟩
  have hread : readModel (c ++ "\n".toList) =
      .ok ⟨[.attributeRecord "(FAMIX.".toList 2], true, "\n".toList⟩ := by
    rw [hc]
    rfl
  have hclosing : Text.EndsAtFirst "))".toList (" ".toList ++ "))".toList) := by
    have hfound : Text.upThrough "))".toList " ))".toList = some " ))".toList := rfl
    exact Text.endsAtFirst_of_upThrough hfound
  have hfigure : RefFigure IsReadable Harmless "parentType".toList 2
      "(parentType (ref: 2 ))".toList :=
    .intro "2".toList " ".toList
      ⟨⟨by decide, List.forall_mem_singleton.mpr (by decide), by decide⟩, by decide⟩ (by simp)
      hclosing (harmless_of_not_mem (by decide) (by decide))
  have hname : '\'' ∉ "(FAMIX.".toList := by decide
  have hskips : SkipsHarmlessly c := by
    rw [hc]
    exact ⟨_, _, rfl, .inr (.last ⟨_, .attributeRecord hname hfigure,
      .cons rfl (.intro 0) (.cons rfl (.intro 1) (.last rfl))⟩)⟩
  exact ⟨c, hc, hread, hskips, openings_eq_length hread hskips⟩

/-- **Swallowed.** Where the parentheses of a reference are missing, the reference goes on to
those of the next record, and only one of the two records is read. -/
theorem readModel_swallows :
    ∃ c : Text,
      c = ("((FAMIX.Attribute\n(name 'a')\n(parentType (ref: 2\n" ++
        "  (FAMIX.Attribute\n(name 'b')\n(parentType (ref: 3))))").toList ∧
      readModel c = .ok ⟨[.attributeRecord "a".toList 2], true, []⟩ ∧ openings c = 2 :=
  ⟨_, rfl, rfl, by decide⟩

end Famix
