/-
What has been read can be written.

Reading and writing have the same limit for the length of a numeral. A numeral that was short
enough to be read writes a number whose own numeral is no longer (`isWritableNumber_of_isReadable`),
so the records of a text have a snapshot (`document_of_readModel`).
-/
import Famix.Proofs.Language
import Famix.Yaml.Snapshot

set_option autoImplicit false

namespace Famix

/-! ## Numbers -/

/-- A run of digits writes a number below the power of ten of its length. -/
theorem Text.decimalValue_lt {run : Text} (h : ∀ c ∈ run, c.isDigit = true) :
    Text.decimalValue run < 10 ^ run.length := by
  induction run with
  | nil => simp [Text.decimalValue, Nat.ofDigitChars_nil]
  | cons c run ih =>
    have hdigit : c.toNat - '0'.toNat ≤ 9 := by
      have hc := h c List.mem_cons_self
      simp only [Char.isDigit, Bool.and_eq_true, decide_eq_true_eq] at hc
      have hle : c.toNat ≤ '9'.toNat := hc.2
      have hnine : '9'.toNat = '0'.toNat + 9 := rfl
      omega
    have hrest := ih fun d hd => h d (List.mem_cons_of_mem c hd)
    have hlead : 10 ^ run.length * (c.toNat - '0'.toNat) ≤ 10 ^ run.length * 9 :=
      Nat.mul_le_mul_left _ hdigit
    rw [Text.decimalValue_cons, List.length_cons, Nat.pow_succ]
    omega

namespace Grammar

theorem isWritableNumber_of_isReadable {digits : Text} {n : Int} (h : IsReadable digits n) :
    isWritableNumber n = true := by
  obtain ⟨⟨-, hdigits, rfl⟩, hlength⟩ := h
  have hlt : Text.decimalValue digits < 10 ^ maxDigits :=
    (Text.decimalValue_lt hdigits).trans_le (Nat.pow_le_pow_right (by decide) hlength)
  have hshort : (Text.ofNat (Text.decimalValue digits)).length ≤ maxDigits :=
    Text.length_ofNat_le_iff.mpr hlt
  exact decide_eq_true hshort

theorem NumberText.isWritableNumber {opening closing t : Text} {n : Int}
    (h : NumberText IsReadable opening closing n t) : Famix.isWritableNumber n = true := by
  obtain ⟨digits, junk, hdigits, -, -⟩ := h
  exact isWritableNumber_of_isReadable hdigits

/-! ## Records -/

/-- A record that has been read can be written. -/
theorem RecordText.isWritable {entity : Entity} {t : Text} (h : RecordText IsReadable entity t) :
    entity.isWritable = true := by
  cases h with
  | namespaceRecord hid hs₁ hname =>
    simp [Entity.isWritable, Entity.fields, hid.isWritableNumber]
  | packageRecord hid hs₁ hname =>
    simp [Entity.isWritable, Entity.fields, Field.ofNumber?, hid.isWritableNumber]
  | childPackageRecord hid hs₁ hname hs₂ hparent =>
    simp [Entity.isWritable, Entity.fields, Field.ofNumber?, hid.isWritableNumber,
      hparent.isWritableNumber]
  | classRecord hid hs₁ hname hs₂ hcontainer hs₃ hparent =>
    simp [Entity.isWritable, Entity.fields, hid.isWritableNumber, hcontainer.isWritableNumber,
      hparent.isWritableNumber]
  | methodRecord hs₁ hname hs₂ hsignature hs₃ hparent hs₄ hloc =>
    simp [Entity.isWritable, Entity.fields, hparent.isWritableNumber, hloc.isWritableNumber]
  | attributeRecord hs₁ hname hs₂ hparent =>
    simp [Entity.isWritable, Entity.fields, hparent.isWritableNumber]
  | inheritanceRecord hs₁ hsub hs₂ hsuper =>
    simp [Entity.isWritable, Entity.fields, hsub.isWritableNumber, hsuper.isWritableNumber]

/-- What holds of each item with a text holds of all items of a row. -/
theorem Row.forall_mem {α : Type} {item : α → Text → Prop} {gap : Text → Prop} {values : List α}
    {t : Text} {P : α → Prop} (h : Row item gap values t)
    (hitem : ∀ value part, item value part → P value) : ∀ value ∈ values, P value := by
  induction h with
  | last h => exact fun value hmem => List.mem_singleton.1 hmem ▸ hitem _ _ h
  | cons h hs hrest ih =>
    intro value hmem
    rcases List.mem_cons.1 hmem with rfl | hmem
    · exact hitem _ _ h
    · exact ih value hmem

end Grammar

open Grammar

/-- **The records of a text that matches have a snapshot.** -/
theorem document_of_readModel {text : Text} {entities : List Entity} {remainder : Text}
    (h : readModel text = .ok ⟨entities, true, remainder⟩) :
    Yaml.document entities = .ok (Yaml.snapshot entities) := by
  obtain ⟨c, -, hc⟩ := readModel_eq_matched_iff.1 h
  have hall : ∀ entity ∈ entities, entity.isWritable = true := by
    cases hc with
    | empty => exact fun entity hmem => nomatch hmem
    | records hrow => exact hrow.forall_mem fun entity part hrecord => hrecord.isWritable
  exact if_pos (List.all_eq_true.2 hall)

end Famix
