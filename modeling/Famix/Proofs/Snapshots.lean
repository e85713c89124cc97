/-
Different lists of records have different documents.

Everything in a document is told from what follows it. What is written of the content of a field
stands in one line, on the line of its label or on the next one, so the newline behind it is the
next newline there is (`ValueForm.eq_of_newline`): no name, however it is spelt, can imitate the
end of a field. The labels of a record depend on its kind only, and the kind is named first. So
the records of a document are told one by one (`prefixFree_recordLines`).

All this is said of texts that are not folded, as every text is whose scalar fits into the line
(`Field.isUnfolded_of_fits`). A number may be: it is one word, and a line is broken before it, never
within.
-/
import Famix.Proofs.Scalars
import Famix.Proofs.Scan
import Famix.Yaml.Snapshot

set_option autoImplicit false

namespace Famix

open Yaml

/-- The column at which the label of a field ends. -/
def labelEnd (name : Text) : Nat := ("    ".toList ++ name ++ [':']).length

/-- No text in the content of a field is folded behind a label that ends at a column. -/
def Field.IsUnfolded (column : Nat) : Field → Prop
  | .text content => scalarAt column content = ' ' :: scalar content
  | .number _ => True
  | .absent => True

/-- No text in a record is folded. -/
def Entity.IsUnfolded (entity : Entity) : Prop :=
  ∀ field ∈ entity.fields, field.2.IsUnfolded (labelEnd field.1)

instance (column : Nat) (field : Field) : Decidable (field.IsUnfolded column) :=
  match field with
  | .text content => inferInstanceAs (Decidable (scalarAt column content = ' ' :: scalar content))
  | .number _ => .isTrue trivial
  | .absent => .isTrue trivial

instance (entity : Entity) : Decidable entity.IsUnfolded :=
  inferInstanceAs (Decidable (∀ field ∈ entity.fields, field.2.IsUnfolded (labelEnd field.1)))

/-- The content of a field is not folded if its scalar fits into the line. -/
theorem Field.isUnfolded_of_fits {column : Nat} {field : Field}
    (h : ∀ content, field = .text content → column + (scalar content).length < lineWidth) :
    field.IsUnfolded column := by
  cases field with
  | text content => exact scalarAt_of_fits (h content rfl)
  | number value => trivial
  | absent => trivial

/-- Up to the first newline, a text is told from what follows. -/
theorem Text.eq_of_append_newline {line other rest rest' : Text} (hline : '\n' ∉ line)
    (hother : '\n' ∉ other) (h : line ++ '\n' :: rest = other ++ '\n' :: rest') :
    line = other ∧ rest = rest' := by
  have hcut : Text.upThrough ['\n'] (line ++ ['\n'] ++ rest) = some (line ++ ['\n']) :=
    Text.upThrough_append (Text.endsAtFirst_singleton.mpr hline) rest
  have hcut' : Text.upThrough ['\n'] (other ++ ['\n'] ++ rest') = some (other ++ ['\n']) :=
    Text.upThrough_append (Text.endsAtFirst_singleton.mpr hother) rest'
  rw [List.append_assoc, List.singleton_append] at hcut hcut'
  rw [h, hcut'] at hcut
  obtain rfl : other = line := List.append_cancel_right (Option.some.inj hcut)
  exact ⟨rfl, (List.cons.inj (List.append_cancel_left h)).2⟩

namespace Yaml

/-! ## Contents of fields -/

/-- What is written of the content of a field, wherever it stands. -/
def bareValue : Field → Text
  | .text content => scalar content
  | .number value => Text.ofInt value
  | .absent => []

theorem bareValue_injective {field other : Field} (h : bareValue field = bareValue other) :
    field = other := by
  cases field with
  | text content =>
    cases other with
    | text => rw [scalar_injective h]
    | number value => exact absurd h (scalar_ne_ofInt content value)
    | absent => exact absurd h (scalar_ne_nil content)
  | number value =>
    cases other with
    | text content => exact absurd h.symm (scalar_ne_ofInt content value)
    | number => rw [Text.ofInt_injective h]
    | absent => exact absurd h (Text.ofInt_ne_nil value)
  | absent =>
    cases other with
    | text content => exact absurd h.symm (scalar_ne_nil content)
    | number value => exact absurd h.symm (Text.ofInt_ne_nil value)
    | absent => rfl

theorem newline_not_mem_bareValue (field : Field) : '\n' ∉ bareValue field := by
  cases field with
  | text content => exact newline_not_mem_scalar content
  | number value => exact Text.newline_not_mem_ofInt value
  | absent => exact List.not_mem_nil

/-- How the content of a field stands behind the label: not at all, in the same line or in the
next one. -/
inductive ValueForm (bare : Text) : Text → Prop
  | absent (hbare : bare = []) : ValueForm bare []
  | here (hbare : bare ≠ []) : ValueForm bare (' ' :: bare)
  | below (hbare : bare ≠ []) : ValueForm bare (' ' :: (nextLine ++ bare))

theorem valueForm_numberAt (column : Nat) (value : Int) :
    ValueForm (Text.ofInt value) (numberAt column value) := by
  have hnil : Text.ofInt value ≠ [] := Text.ofInt_ne_nil value
  have hspace : isSingleSpace (Text.ofInt value) = false := by
    unfold isSingleSpace
    rw [beq_eq_false_iff_ne]
    intro heq
    exact absurd (Text.mem_ofInt (heq ▸ List.mem_singleton_self ' ')) (by decide)
  unfold numberAt foldPlain foldPlain
  rw [hspace, Bool.false_and, if_neg Bool.false_ne_true, List.append_nil, List.append_nil]
  split
  · exact .below hnil
  · exact .here hnil

theorem valueForm_fieldValue {column : Nat} {field : Field} (h : field.IsUnfolded column) :
    ValueForm (bareValue field) (fieldValue column field) := by
  cases field with
  | text content =>
    have hunfolded : fieldValue column (.text content) = ' ' :: scalar content := h
    rw [hunfolded]
    exact .here (scalar_ne_nil content)
  | number value => exact valueForm_numberAt column value
  | absent => exact .absent rfl

theorem ValueForm.eq_of_newline {bare bare' s t rest rest' : Text} (hs : ValueForm bare s)
    (ht : ValueForm bare' t) (hbare : '\n' ∉ bare) (hbare' : '\n' ∉ bare')
    (h : s ++ '\n' :: rest = t ++ '\n' :: rest') : bare = bare' ∧ rest = rest' := by
  -- a value in the next line is told from one in this line by the newline in front of it
  have hbelow : ∀ {bare rest rest' : Text}, bare ≠ [] → '\n' ∉ bare →
      bare ++ '\n' :: rest ≠ '\n' :: rest' := by
    intro bare rest rest' hne hbare heq
    exact hne (Text.eq_of_append_newline hbare List.not_mem_nil heq).1
  cases hs with
  | absent hnil =>
    cases ht with
    | absent hnil' => exact ⟨hnil.trans hnil'.symm, (List.cons.inj h).2⟩
    | here | below => cases h
  | here hne =>
    cases ht with
    | absent => cases h
    | here => exact Text.eq_of_append_newline hbare hbare' (List.cons.inj h).2
    | below => exact absurd (List.cons.inj h).2 (hbelow hne hbare)
  | below hne =>
    cases ht with
    | absent => cases h
    | here hne' => exact absurd (List.cons.inj h).2.symm (hbelow hne' hbare')
    | below =>
      rw [List.cons_append, List.cons_append, List.append_assoc, List.append_assoc] at h
      have hrest := List.append_cancel_left (List.cons.inj h).2
      exact Text.eq_of_append_newline hbare hbare' hrest

/-- What stands behind the label of a field is told from whatever follows it. -/
theorem prefixFree_fieldValue (column : Nat) :
    PrefixFree (Field.IsUnfolded column) fun field => fieldValue column field ++ ['\n'] := by
  intro field other rest rest' hfield hother h
  rw [List.append_assoc, List.append_assoc] at h
  obtain ⟨hbare, hrest⟩ := (valueForm_fieldValue hfield).eq_of_newline
    (valueForm_fieldValue hother) (newline_not_mem_bareValue field)
    (newline_not_mem_bareValue other) h
  exact ⟨bareValue_injective hbare, hrest⟩

/-! ## Records -/

theorem fieldLine_append (name : Text) (field : Field) (rest : Text) :
    fieldLine (name, field) ++ rest =
      "    ".toList ++ name ++ [':'] ++ (fieldValue (labelEnd name) field ++ ['\n'] ++ rest) := by
  unfold fieldLine labelEnd
  generalize "    ".toList ++ name ++ [':'] = label
  dsimp only
  rw [List.append_assoc, List.append_assoc, List.append_assoc]

/-- Fields with the same labels are told from whatever follows them. -/
theorem eq_of_fieldLines_append {fields others : List (Text × Field)} {rest rest' : Text}
    (hlabels : fields.map Prod.fst = others.map Prod.fst)
    (hfields : ∀ field ∈ fields, field.2.IsUnfolded (labelEnd field.1))
    (hothers : ∀ field ∈ others, field.2.IsUnfolded (labelEnd field.1))
    (h : fields.flatMap fieldLine ++ rest = others.flatMap fieldLine ++ rest') :
    fields = others ∧ rest = rest' := by
  induction fields generalizing others with
  | nil =>
    obtain rfl : others = [] := List.map_eq_nil_iff.mp hlabels.symm
    exact ⟨rfl, h⟩
  | cons field fields ih =>
    rcases others with _ | ⟨other, others⟩
    · cases hlabels
    · obtain ⟨name, field⟩ := field
      obtain ⟨name', other⟩ := other
      obtain ⟨hname, hlabels'⟩ := List.cons.inj hlabels
      obtain rfl : name = name' := hname
      obtain ⟨hfield, hfields'⟩ := List.forall_mem_cons.mp hfields
      obtain ⟨hother, hothers'⟩ := List.forall_mem_cons.mp hothers
      rw [List.flatMap_cons, List.flatMap_cons, List.append_assoc, List.append_assoc,
        fieldLine_append, fieldLine_append] at h
      obtain ⟨rfl, hlines⟩ := prefixFree_fieldValue (labelEnd name) field other _ _ hfield hother
        (List.append_cancel_left h)
      obtain ⟨rfl, hrest⟩ := ih hlabels' hfields' hothers' hlines
      exact ⟨rfl, hrest⟩

/-- The labels of a record depend on its kind only. -/
theorem labels_eq_of_kind {entity other : Entity} (h : entity.kind = other.kind) :
    entity.fields.map Prod.fst = other.fields.map Prod.fst := by
  cases entity <;> cases other <;> cases h <;> rfl

theorem ofNumber?_inj {value other : Option Int} :
    Field.ofNumber? value = Field.ofNumber? other ↔ value = other := by
  constructor
  · intro h
    cases value <;> cases other <;> cases h <;> rfl
  · rintro rfl
    rfl

/-- A record is told by its fields: no two kinds have the same labels. -/
theorem fields_injective {entity other : Entity} (h : entity.fields = other.fields) :
    entity = other := by
  cases entity <;> cases other <;> simp_all [Entity.fields, ofNumber?_inj]

theorem newline_not_mem_name (kind : Kind) : '\n' ∉ kind.name := by
  cases kind <;> decide

theorem recordLines_append (entity : Entity) (rest : Text) :
    recordLines entity ++ rest =
      "  - kind: ".toList ++
        (entity.kind.name ++ '\n' :: (entity.fields.flatMap fieldLine ++ rest)) := by
  unfold recordLines
  generalize "  - kind: ".toList = lead
  rw [List.append_assoc, List.append_assoc, List.append_assoc, List.singleton_append]

/-- A record is told from whatever follows it. -/
theorem prefixFree_recordLines : PrefixFree Entity.IsUnfolded recordLines := by
  intro entity other rest rest' hentity hother h
  rw [recordLines_append, recordLines_append] at h
  obtain ⟨hname, hlines⟩ := Text.eq_of_append_newline (newline_not_mem_name entity.kind)
    (newline_not_mem_name other.kind) (List.append_cancel_left h)
  have hkind : entity.kind = other.kind := Kind.name_injective hname
  obtain ⟨hfields, hrest⟩ := eq_of_fieldLines_append (labels_eq_of_kind hkind) hentity hother hlines
  exact ⟨fields_injective hfields, hrest⟩

/-! ## Documents -/

/-- Records that are not folded are told by their snapshot. -/
theorem snapshot_injective {entities others : List Entity}
    (hentities : ∀ entity ∈ entities, entity.IsUnfolded)
    (hothers : ∀ entity ∈ others, entity.IsUnfolded) (h : snapshot entities = snapshot others) :
    entities = others := by
  rcases entities with _ | ⟨entity, entities⟩
  · rcases others with _ | ⟨other, others⟩
    · rfl
    · cases h
  · rcases others with _ | ⟨other, others⟩
    · cases h
    · exact prefixFree_recordLines.flatMap_injective (fun _ => List.cons_ne_nil _ _) hentities
        hothers h

theorem document_of_isWritable {entities : List Entity}
    (h : ∀ entity ∈ entities, entity.isWritable = true) :
    document entities = .ok (snapshot entities) := by
  unfold document
  rw [if_pos (List.all_eq_true.mpr h)]

/-- **Documents lose nothing.** Two lists of records whose numbers can be written and whose texts
are not folded have documents, and the documents are equal only if the lists are. Behind a label,
too, the contents of fields are told from each other: no text is taken for a number, for another
text or for nothing. -/
theorem document_eq_iff {entities others : List Entity}
    (hentities : ∀ entity ∈ entities, entity.isWritable = true)
    (hothers : ∀ entity ∈ others, entity.isWritable = true)
    (hunfolded : ∀ entity ∈ entities, entity.IsUnfolded)
    (hunfolded' : ∀ entity ∈ others, entity.IsUnfolded) :
    (∃ text text', document entities = .ok text ∧ document others = .ok text' ∧
      (text = text' ↔ entities = others)) ∧
    ∀ (column : Nat) (field other : Field), field.IsUnfolded column → other.IsUnfolded column →
      (fieldValue column field = fieldValue column other ↔ field = other) := by
  constructor
  · refine ⟨snapshot entities, snapshot others, document_of_isWritable hentities,
      document_of_isWritable hothers, ?_⟩
    constructor
    · exact snapshot_injective hunfolded hunfolded'
    · rintro rfl
      rfl
  · intro column field other hfield hother
    constructor
    · intro heq
      refine (prefixFree_fieldValue column field other [] [] hfield hother ?_).1
      dsimp only
      rw [heq]
    · rintro rfl
      rfl

/-- Names that look like a number, like nothing or like the beginning of another record are no
obstacle, and a record that is there twice is not taken for one. -/
theorem document_eq_iff_of_repeated :
    ∃ entities others : List Entity,
      entities = [.packageRecord "1".toList 1 none, .packageRecord "null".toList 1 none,
        .packageRecord [] 1 (some 1),
        .methodRecord "it's\n  - kind: Class".toList "f(\u2028)".toList (-5) 0] ∧
      others = .packageRecord "1".toList 1 none :: entities ∧
      (∀ entity ∈ entities, entity.isWritable = true) ∧
      (∀ entity ∈ others, entity.isWritable = true) ∧
      (∀ entity ∈ entities, entity.IsUnfolded) ∧ (∀ entity ∈ others, entity.IsUnfolded) ∧
      entities ≠ others ∧
      ∃ text text', document entities = .ok text ∧ document others = .ok text' ∧
        (text = text' ↔ entities = others) := by
  refine ⟨_, _, rfl, rfl, by decide +kernel, by decide +kernel, by decide +kernel,
    by decide +kernel, by decide, ?_⟩
  exact (document_eq_iff (by decide +kernel) (by decide +kernel) (by decide +kernel)
    (by decide +kernel)).1

/-- A name that is spelt like a number or like nothing is quoted. -/
example :
    [.text "1".toList, .number 1, .text "null".toList, .absent, .text []].map (fieldValue 9) =
      [" '1'".toList, " 1".toList, " 'null'".toList, [], " ''".toList] := by
  decide +kernel

end Yaml

end Famix
