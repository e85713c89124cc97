/-
Different texts are different scalars.

A text is written in one of three styles, and the first character of a scalar tells which: plain
scalars begin with no quote. Within a style nothing is lost. In single quotes an indentation was
put in behind a line end unless another line end follows, and no line end begins with a space
(`singleBody_injective`). In double quotes the escapes are a prefix code: an escape is told from
whatever follows it, by the letter behind the backslash and the number of digits that the letter
announces (`prefixFree_escape`). So `scalar_injective`.

A numeral is a plain scalar too. It is no scalar of a text, because it is of the pattern of whole
numbers (`matches_ofInt`), so that a text of that spelling would be read as a number and is quoted
(`scalar_ne_ofInt`).
-/
import Famix.Proofs.Characters
import Famix.Proofs.Patterns
import Famix.Yaml.Scalar
import Mathlib.Algebra.Group.Nat.Defs

set_option autoImplicit false

namespace Famix

/-! ## Prefix codes -/

/-- What is written for admitted values can be told from whatever stands behind it. -/
def PrefixFree {α : Type} (admits : α → Prop) (write : α → Text) : Prop :=
  ∀ a b rest rest', admits a → admits b → write a ++ rest = write b ++ rest' →
    a = b ∧ rest = rest'

/-- Values that are written with a prefix code are told from what is written for all of them. -/
theorem PrefixFree.flatMap_injective {α : Type} {admits : α → Prop} {write : α → Text}
    (h : PrefixFree admits write) (hwrite : ∀ a, write a ≠ []) {values others : List α}
    (hvalues : ∀ a ∈ values, admits a) (hothers : ∀ a ∈ others, admits a)
    (heq : values.flatMap write = others.flatMap write) : values = others := by
  induction values generalizing others with
  | nil =>
    rcases others with _ | ⟨b, others⟩
    · rfl
    · rw [List.flatMap_nil, List.flatMap_cons] at heq
      exact absurd (List.append_eq_nil_iff.mp heq.symm).1 (hwrite b)
  | cons a values ih =>
    rcases others with _ | ⟨b, others⟩
    · rw [List.flatMap_nil, List.flatMap_cons] at heq
      exact absurd (List.append_eq_nil_iff.mp heq).1 (hwrite a)
    · rw [List.flatMap_cons, List.flatMap_cons] at heq
      obtain ⟨hvalue, hvalues⟩ := List.forall_mem_cons.mp hvalues
      obtain ⟨hother, hothers⟩ := List.forall_mem_cons.mp hothers
      obtain ⟨hab, hrest⟩ := h a b _ _ hvalue hother heq
      rw [hab, ih hvalues hothers hrest]

namespace Text

/-! ## Hexadecimal digits -/

/-- A number below sixteen is its one digit. -/
theorem hexDigits_one {n : Nat} (h : n < 16) : hexDigits 1 n = [Nat.digitChar n] := by
  unfold hexDigits
  rw [Nat.toDigits_of_lt_base h]
  rfl

/-- The last of several digits is that of the remainder. -/
theorem hexDigits_succ (places n : Nat) :
    hexDigits (places + 2) n = hexDigits (places + 1) (n / 16) ++ [Nat.digitChar (n % 16)] := by
  unfold hexDigits
  dsimp only
  by_cases h : n < 16
  · -- one of the zeros that fill up is the numeral of what is left
    have hzero : Nat.digitChar 0 = '0' := rfl
    rw [Nat.toDigits_of_lt_base h, Nat.div_eq_of_lt h, Nat.mod_eq_of_lt h,
      Nat.toDigits_of_lt_base (by omega : 0 < 16), hzero, List.length_singleton,
      List.length_singleton, ← List.replicate_succ']
    rfl
  · rw [Nat.toDigits_of_base_le (by omega) (by omega), List.length_append, List.length_singleton,
      ← List.append_assoc]
    congr 3
    omega

end Text

namespace Yaml

/-- The last capital digit is that of the remainder, as it is with small digits. -/
theorem hexCapitals_succ (places n : Nat) :
    hexCapitals (places + 2) n =
      hexCapitals (places + 1) (n / 16) ++ [(Nat.digitChar (n % 16)).toUpper] := by
  unfold hexCapitals
  rw [Text.hexDigits_succ, List.map_append, List.map_singleton]

/-- Capital digits tell the number below sixteen. -/
theorem toUpper_digitChar_injective :
    ∀ m < 16, ∀ n < 16, (Nat.digitChar m).toUpper = (Nat.digitChar n).toUpper → m = n := by
  decide +kernel

/-- A number that fits into the digits is written with just as many of them. -/
theorem length_hexCapitals {places n : Nat} (h : n < 16 ^ (places + 1)) :
    (hexCapitals (places + 1) n).length = places + 1 := by
  induction places generalizing n with
  | zero =>
    unfold hexCapitals
    rw [Text.hexDigits_one (by omega)]
    rfl
  | succ places ih =>
    rw [hexCapitals_succ, List.length_append, List.length_singleton, ih]
    -- one digit is taken off the end, and the quotient fits into one place less
    rw [Nat.pow_succ] at h
    omega

/-- Numbers that fit into the digits are told by them. -/
theorem hexCapitals_injective {places m n : Nat} (hm : m < 16 ^ (places + 1))
    (hn : n < 16 ^ (places + 1)) (h : hexCapitals (places + 1) m = hexCapitals (places + 1) n) :
    m = n := by
  induction places generalizing m n with
  | zero =>
    unfold hexCapitals at h
    rw [Text.hexDigits_one (by omega), Text.hexDigits_one (by omega)] at h
    exact toUpper_digitChar_injective m (by omega) n (by omega) (List.cons.inj h).1
  | succ places ih =>
    rw [hexCapitals_succ, hexCapitals_succ] at h
    obtain ⟨hlead, hlast⟩ := List.append_inj' h rfl
    rw [Nat.pow_succ] at hm hn
    have hdiv : m / 16 = n / 16 := ih (by omega) (by omega) hlead
    have hmod : m % 16 = n % 16 :=
      toUpper_digitChar_injective _ (by omega) _ (by omega) (List.cons.inj hlast).1
    omega

/-! ## Double quotes -/

/-- The characters that have an escape of their own, each with the letter of the escape. -/
def namedEscapes : List (Char × Char) :=
  [('"', '"'), ('\\', '\\'), ('\x00', '0'), ('\x07', 'a'), ('\x08', 'b'), ('\t', 't'), ('\n', 'n'),
    ('\x0b', 'v'), ('\x0c', 'f'), ('\r', 'r'), ('\x1b', 'e'), ('\u0085', 'N'), ('\u2028', 'L'),
    ('\u2029', 'P')]

/-- The letters of the escapes by code point, each with the number of digits behind it, less
one. -/
def codedEscapes : List (Char × Nat) := [('x', 1), ('u', 3), ('U', 7)]

/-- How a character stands between double quotes: as itself, as an escape of its own, or as an
escape by its code point. -/
inductive EscapeForm (c : Char) : Text → Prop
  | shown (hbackslash : c ≠ '\\') (hnewline : c ≠ '\n') : EscapeForm c [c]
  | named (letter : Char) (hletter : (c, letter) ∈ namedEscapes) : EscapeForm c ['\\', letter]
  | coded (letter : Char) (places : Nat) (hletter : (letter, places) ∈ codedEscapes)
    (hcode : c.toNat < 16 ^ (places + 1)) :
    EscapeForm c ('\\' :: letter :: hexCapitals (places + 1) c.toNat)

/-- The shortest of the three escapes by code point has room for it. -/
theorem escapeForm_codeEscape (c : Char) : EscapeForm c (Text.codeEscape hexCapitals c) := by
  unfold Text.codeEscape
  by_cases hbyte : c.toNat ≤ 0xff
  · rw [if_pos hbyte]
    exact .coded 'x' 1 (by decide) (by omega)
  · rw [if_neg hbyte]
    by_cases hplane : c.toNat ≤ 0xffff
    · rw [if_pos hplane]
      exact .coded 'u' 3 (by decide) (by omega)
    · rw [if_neg hplane]
      refine .coded 'U' 7 (by decide) ?_
      have hvalid : c.toNat < 0x110000 := by
        have hvalid := c.valid
        unfold UInt32.isValidChar Nat.isValidChar at hvalid
        change c.val.toNat < 0x110000
        omega
      omega

/-- Every character is written in one of the three ways. -/
theorem escapeForm_escape (c : Char) : EscapeForm c (escape c) := by
  unfold escape
  split
  -- all but the last alternative are escapes of their own
  all_goals try exact .named _ (by decide)
  split
  · exact .shown ‹_› ‹_›
  · exact escapeForm_codeEscape c

/-! The letter behind a backslash tells which escape it is. -/

/-- A letter is that of one character. -/
theorem eq_of_namedEscapes {c d letter : Char} (hc : (c, letter) ∈ namedEscapes)
    (hd : (d, letter) ∈ namedEscapes) : c = d := by
  have hall : ∀ first ∈ namedEscapes, ∀ second ∈ namedEscapes, first.2 = second.2 →
      first.1 = second.1 := by
    decide +kernel
  exact hall _ hc _ hd rfl

/-- A letter announces one number of digits. -/
theorem eq_of_codedEscapes {places others : Nat} {letter : Char}
    (h : (letter, places) ∈ codedEscapes) (hother : (letter, others) ∈ codedEscapes) :
    places = others := by
  have hall : ∀ first ∈ codedEscapes, ∀ second ∈ codedEscapes, first.1 = second.1 →
      first.2 = second.2 := by
    decide +kernel
  exact hall _ h _ hother rfl

/-- No letter stands for a character and announces digits as well. -/
theorem namedEscapes_ne_codedEscapes {c letter other : Char} {places : Nat}
    (h : (c, letter) ∈ namedEscapes) (hother : (other, places) ∈ codedEscapes) :
    letter ≠ other := by
  have hall : ∀ named ∈ namedEscapes, ∀ coded ∈ codedEscapes, named.2 ≠ coded.1 := by
    decide +kernel
  exact hall _ h _ hother

/-- Escapes by code point are told by their digits, whose number the letter tells. -/
theorem eq_of_hexCapitals_append {c d : Char} {places : Nat} {rest rest' : Text}
    (hc : c.toNat < 16 ^ (places + 1)) (hd : d.toNat < 16 ^ (places + 1))
    (h : hexCapitals (places + 1) c.toNat ++ rest = hexCapitals (places + 1) d.toNat ++ rest') :
    c = d ∧ rest = rest' := by
  have hlength : (hexCapitals (places + 1) c.toNat).length =
      (hexCapitals (places + 1) d.toNat).length := by
    rw [length_hexCapitals hc, length_hexCapitals hd]
  obtain ⟨hdigits, hrest⟩ := List.append_inj h hlength
  exact ⟨Char.toNat_inj.mp (hexCapitals_injective hc hd hdigits), hrest⟩

/-- What stands for a character between double quotes is told from whatever follows it. -/
theorem prefixFree_escape : PrefixFree (fun _ => True) escape := by
  intro c d rest rest' _ _ heq
  have hc := escapeForm_escape c
  have hd := escapeForm_escape d
  generalize escape c = s at hc heq
  generalize escape d = t at hd heq
  cases hc with
  | shown hbackslash =>
    cases hd with
    | shown =>
      obtain ⟨rfl, rfl⟩ := List.cons.inj heq
      exact ⟨rfl, rfl⟩
    | named | coded => exact absurd (List.cons.inj heq).1 hbackslash
  | named letter hletter =>
    cases hd with
    | shown hbackslash => exact absurd (List.cons.inj heq).1.symm hbackslash
    | named other hother =>
      obtain ⟨rfl, rfl⟩ := List.cons.inj (List.cons.inj heq).2
      exact ⟨eq_of_namedEscapes hletter hother, rfl⟩
    | coded other places hother =>
      have hne : letter ≠ other := namedEscapes_ne_codedEscapes hletter hother
      exact absurd (List.cons.inj (List.cons.inj heq).2).1 hne
  | coded letter places hletter hcode =>
    cases hd with
    | shown hbackslash => exact absurd (List.cons.inj heq).1.symm hbackslash
    | named other hother =>
      have hne : other ≠ letter := namedEscapes_ne_codedEscapes hother hletter
      exact absurd (List.cons.inj (List.cons.inj heq).2).1.symm hne
    | coded other others hother hcode' =>
      obtain ⟨rfl, hdigits⟩ := List.cons.inj (List.cons.inj heq).2
      obtain rfl := eq_of_codedEscapes hletter hother
      exact eq_of_hexCapitals_append hcode hcode' hdigits

/-- Something is written for every character. -/
theorem escape_ne_nil (c : Char) : escape c ≠ [] := by
  have hc := escapeForm_escape c
  generalize escape c = s at hc
  cases hc with
  | shown | named | coded => exact List.cons_ne_nil _ _

/-- Capital digits hold no newline. -/
theorem newline_not_mem_hexCapitals (places n : Nat) : '\n' ∉ hexCapitals places n := by
  have hall : '\n' ∉ Text.numeralCharacters.map Char.toUpper := by
    decide +kernel
  intro h
  obtain ⟨digit, hdigit, hupper⟩ := List.mem_map.mp h
  exact hall (List.mem_map.mpr ⟨digit, Text.mem_hexDigits hdigit, hupper⟩)

/-- A newline is never written as itself between double quotes. -/
theorem newline_not_mem_escape (c : Char) : '\n' ∉ escape c := by
  have hnamed : ∀ named ∈ namedEscapes, named.2 ≠ '\n' := by
    decide +kernel
  have hcoded : ∀ coded ∈ codedEscapes, coded.1 ≠ '\n' := by
    decide +kernel
  have hc := escapeForm_escape c
  generalize escape c = s at hc
  -- of the three forms only the first could be a newline, and a newline is not shown
  cases hc with
  | shown _ hnewline => simp [Ne.symm hnewline]
  | named letter hletter => simp [Ne.symm (hnamed _ hletter)]
  | coded letter places hletter =>
    simp [Ne.symm (hcoded _ hletter), newline_not_mem_hexCapitals]

/-- Double quotes lose nothing. -/
theorem doubleQuoted_injective {text other : Text} (h : doubleQuoted text = doubleQuoted other) :
    text = other := by
  unfold doubleQuoted at h
  refine prefixFree_escape.flatMap_injective escape_ne_nil (fun _ _ => trivial)
    (fun _ _ => trivial) ?_
  exact List.append_cancel_right (List.cons.inj h).2

/-- A scalar in double quotes is on one line. -/
theorem newline_not_mem_doubleQuoted (text : Text) : '\n' ∉ doubleQuoted text := by
  have hbody : '\n' ∉ text.flatMap escape := by
    intro h
    obtain ⟨c, -, hc⟩ := List.mem_flatMap.mp h
    exact newline_not_mem_escape c hc
  simp [doubleQuoted, hbody]

/-! ## Single quotes -/

/-- Behind a line end that ends a run of them comes the indentation, and behind any other character
nothing. -/
theorem singleBody_cons (c : Char) (rest : Text) :
    singleBody (c :: rest) =
      c :: if isBreak c && !(rest.head?.any isBreak) then scalarIndent ++ singleBody rest
        else singleBody rest := by
  rw [singleBody]
  split
  · rfl
  · rfl

/-- Nothing is put in front of the first character. -/
theorem head?_singleBody (text : Text) : (singleBody text).head? = text.head? := by
  rcases text with _ | ⟨c, rest⟩
  · rfl
  · rw [singleBody_cons]
    rfl

/-- Behind a line end, another line end is told from the indentation. -/
theorem singleBody_ne_scalarIndent_append {text rest : Text}
    (h : text.head?.any isBreak = true) : singleBody text ≠ scalarIndent ++ rest := by
  intro heq
  have hhead : text.head? = some ' ' := by
    rw [← head?_singleBody, heq]
    rfl
  rw [hhead] at h
  exact absurd h (by decide)

/-- What was put in behind line ends can be taken out again. -/
theorem singleBody_injective {text other : Text} (h : singleBody text = singleBody other) :
    text = other := by
  -- on the text, with the other one along: the first characters agree, and what was put in behind
  -- them depends on what follows, which agrees in its first character too
  induction text generalizing other with
  | nil =>
    have hhead : other.head? = none := by
      rw [← head?_singleBody, ← h]
      rfl
    exact (List.head?_eq_none_iff.mp hhead).symm
  | cons c text ih =>
    rcases other with _ | ⟨d, other⟩
    · rw [singleBody_cons] at h
      cases h
    · rw [singleBody_cons, singleBody_cons] at h
      obtain ⟨rfl, hrest⟩ := List.cons.inj h
      -- an indentation was put in on both sides or on none
      split at hrest
      · split at hrest
        · rw [ih (List.append_cancel_left hrest)]
        · exact absurd hrest.symm (singleBody_ne_scalarIndent_append (by simp_all))
      · split at hrest
        · exact absurd hrest (singleBody_ne_scalarIndent_append (by simp_all))
        · rw [ih hrest]

/-- Single quotes lose nothing. -/
theorem singleQuoted_injective {text other : Text} (h : singleQuoted text = singleQuoted other) :
    text = other :=
  singleBody_injective (List.append_cancel_right (List.cons.inj h).2)

/-- The indentation brings no newline along. -/
theorem newline_not_mem_singleBody {text : Text} (h : '\n' ∉ text) : '\n' ∉ singleBody text := by
  -- the cases are whether the indentation is put in behind the first character
  fun_induction singleBody text with
  | case1 => exact h
  | case2 c rest hbreak ih =>
    rw [List.mem_cons, not_or] at h
    simp [h.1, ih h.2, scalarIndent]
  | case3 c rest hbreak ih =>
    rw [List.mem_cons, not_or] at h
    simp [h.1, ih h.2]

/-- A scalar in single quotes is on one line if its text is. -/
theorem newline_not_mem_singleQuoted {text : Text} (h : '\n' ∉ text) :
    '\n' ∉ singleQuoted text := by
  simp [singleQuoted, newline_not_mem_singleBody h]

/-! ## Numerals -/

section

open Pattern

/-- Numerals are of the pattern of whole numbers. -/
theorem matches_ofInt (n : Int) :
    Matches (row [maybe (among "-+"), plus (among "0123456789_")]) (Text.ofInt n) := by
  have hbelongs : "0123456789".toList.all ("0123456789_".toList.contains ·) = true := by
    decide +kernel
  obtain ⟨sign, digits, heq, hsign, hdigits, hall⟩ := Text.ofInt_eq n
  have hlead : Matches (maybe (among "-+")) sign := by
    rcases hsign with rfl | rfl
    · exact .right .empty
    · exact .left (.char (by decide))
  have hnumber : Matches (plus (among "0123456789_")) digits :=
    .plus_char hdigits fun c hc =>
      List.all_eq_true.mp hbelongs c (Text.mem_of_isDigit (hall c hc))
  rw [heq, ← List.append_nil digits]
  exact .seq hlead (.seq hnumber .empty)

/-- A plain scalar that spells a whole number would be read as one. -/
theorem readsAsOther_ofInt (n : Int) : readsAsOther (Text.ofInt n) = true := by
  have hbelongs : ('-' :: "0123456789".toList).all ("-+0123456789".toList.contains ·) = true := by
    decide +kernel
  refine List.any_eq_true.mpr
    ⟨("-+0123456789", row [maybe (among "-+"), plus (among "0123456789_")]), by simp [otherTypes],
      ?_⟩
  rw [Bool.and_eq_true, isMatch_iff]
  refine ⟨?_, matches_ofInt n⟩
  -- the first character is one with which numbers may begin
  obtain ⟨c, rest, hcons⟩ := List.exists_cons_of_ne_nil (Text.ofInt_ne_nil n)
  have hc : c ∈ Text.ofInt n := hcons ▸ List.mem_cons_self
  rw [hcons]
  refine List.all_eq_true.mp hbelongs c ?_
  rcases Text.mem_ofInt hc with rfl | hdigit
  · exact List.mem_cons_self
  · exact List.mem_cons_of_mem _ (Text.mem_of_isDigit hdigit)

end

/-! ## Scalars -/

/-- A text as a scalar: plain, which no quote begins and which would not be read as something
else, or in quotes. -/
inductive ScalarForm (text : Text) : Text → Prop
  | plain (hallowed : plainAllowed text = true) (hother : readsAsOther text = false) :
    ScalarForm text text
  | single (hnewline : '\n' ∉ text) : ScalarForm text (singleQuoted text)
  | double : ScalarForm text (doubleQuoted text)

/-- Whatever decides the style, a text is plain only where that is allowed, and in single quotes
only where it holds no newline. -/
theorem scalarForm_scalar (text : Text) : ScalarForm text (scalar text) := by
  unfold scalar ScalarStyle.of
  -- the styles are tried in this order: single quotes for the empty text, plain, double quotes for
  -- texts with a quote or a newline or with special characters, and single quotes
  by_cases hnil : text.isEmpty = true
  · rw [if_pos hnil]
    rw [List.isEmpty_iff.mp hnil]
    exact .single List.not_mem_nil
  · rw [if_neg hnil]
    by_cases hplain : (plainAllowed text && !readsAsOther text) = true
    · rw [if_pos hplain]
      rw [Bool.and_eq_true, Bool.not_eq_true'] at hplain
      exact .plain hplain.1 hplain.2
    · rw [if_neg hplain]
      by_cases hquote : (text.contains '\'' || text.contains '\n') = true
      · rw [if_pos hquote]
        exact .double
      · rw [if_neg hquote]
        by_cases hspecial : (text.any isSpecial || spaceAtBreak text) = true
        · rw [if_pos hspecial]
          exact .double
        · rw [if_neg hspecial]
          exact .single (by simp_all)

/-- A plain scalar begins with no quote, so the styles cannot be mixed up. -/
theorem head?_ne_of_plainAllowed {text : Text} (h : plainAllowed text = true) {quote : Char}
    (hquote : quote ∈ ['\'', '"']) : text.head? ≠ some quote := by
  intro hhead
  obtain ⟨rest, rfl⟩ : ∃ rest, text = quote :: rest := List.head?_eq_some_iff.mp hhead
  have hall : ['\'', '"'].all isIndicator = true := by
    decide
  simp [plainAllowed, badStart, List.all_eq_true.mp hall quote hquote] at h

/-- A plain scalar is on one line. -/
theorem newline_not_mem_of_plainAllowed {text : Text} (h : plainAllowed text = true) :
    '\n' ∉ text := by
  intro hmem
  have hbreak : text.any isBreak = true := List.any_eq_true.mpr ⟨'\n', hmem, rfl⟩
  simp [plainAllowed, hbreak] at h

/-- Every scalar is on one line, so the lines of a snapshot are its entries. -/
theorem newline_not_mem_scalar (text : Text) : '\n' ∉ scalar text := by
  have hform := scalarForm_scalar text
  generalize scalar text = s at hform
  cases hform with
  | plain hallowed => exact newline_not_mem_of_plainAllowed hallowed
  | single hnewline => exact newline_not_mem_singleQuoted hnewline
  | double => exact newline_not_mem_doubleQuoted text

/-- The empty text is written as two quotes, so no scalar is empty. -/
theorem scalar_ne_nil (text : Text) : scalar text ≠ [] := by
  have hform := scalarForm_scalar text
  generalize scalar text = s at hform
  cases hform with
  | plain hallowed =>
    rintro rfl
    exact absurd hallowed (by decide)
  | single => exact List.cons_ne_nil _ _
  | double => exact List.cons_ne_nil _ _

/-- **Scalars lose nothing.** -/
theorem scalar_injective {text other : Text} (h : scalar text = scalar other) : text = other := by
  have hform := scalarForm_scalar text
  have hother := scalarForm_scalar other
  rw [← h] at hother
  generalize scalar text = s at hform hother
  -- the same scalar in two styles would begin with two different characters
  cases hform with
  | plain hallowed =>
    cases hother with
    | plain => rfl
    | single => exact absurd rfl (head?_ne_of_plainAllowed hallowed (by decide))
    | double => exact absurd rfl (head?_ne_of_plainAllowed hallowed (by decide))
  | single =>
    generalize hquoted : singleQuoted text = s at hother
    cases hother with
    | plain hallowed =>
      rw [← hquoted] at hallowed
      exact absurd rfl (head?_ne_of_plainAllowed hallowed (by decide))
    | single => exact singleQuoted_injective hquoted
    | double => cases hquoted
  | double =>
    generalize hquoted : doubleQuoted text = s at hother
    cases hother with
    | plain hallowed =>
      rw [← hquoted] at hallowed
      exact absurd rfl (head?_ne_of_plainAllowed hallowed (by decide))
    | single => cases hquoted
    | double => exact doubleQuoted_injective hquoted

/-- A text is not taken for a number. -/
theorem scalar_ne_ofInt (text : Text) (n : Int) : scalar text ≠ Text.ofInt n := by
  have hform := scalarForm_scalar text
  generalize scalar text = s at hform
  intro heq
  cases hform with
  | plain _ hother =>
    rw [heq, readsAsOther_ofInt] at hother
    cases hother
  | single =>
    have hquote : '\'' ∈ Text.ofInt n := heq ▸ List.mem_cons_self
    exact absurd (Text.mem_ofInt hquote) (by decide)
  | double =>
    have hquote : '"' ∈ Text.ofInt n := heq ▸ List.mem_cons_self
    exact absurd (Text.mem_ofInt hquote) (by decide)

end Yaml

end Famix
