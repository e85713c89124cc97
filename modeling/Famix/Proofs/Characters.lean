/-
Where the characters of composed texts come from.

A message is put together from fixed words, numerals and paths, and a path may have been typed
by anyone. The characters of a written path are those of the text that it was read from, with
slashes and dots (`Path.mem_toText`, `Path.mem_part_ofText`), and quoting adds only what it
escapes with (`Text.mem_quoted`). So a bracket is in a message only if it was in a path.
-/
import Famix.File.System

set_option autoImplicit false

namespace Famix

variable {c : Char}

namespace Text

/-! ## Numerals -/

/-- The characters with which numerals are written, in any base. -/
def numeralCharacters : Text := "0123456789abcdef*".toList

/-- Every digit is one of the characters. Beyond sixteen there is only the asterisk. -/
theorem digitChar_mem (n : Nat) : Nat.digitChar n ∈ numeralCharacters := by
  rcases Nat.lt_or_ge n 16 with h | h
  · revert n
    decide +kernel
  · have hstar : Nat.digitChar n = '*' := by
      unfold Nat.digitChar
      repeat rw [if_neg (by omega)]
    rw [hstar]
    decide +kernel

/-- Numerals of any base are of these characters. -/
theorem mem_toDigits {base : Nat} (hbase : 1 < base) {n : Nat} (h : c ∈ Nat.toDigits base n) :
    c ∈ numeralCharacters := by
  -- on the number: its last digit is taken off, and the quotient is smaller
  induction n using Nat.strongRecOn with
  | ind n ih =>
    rcases Nat.lt_or_ge n base with hlt | hge
    · rw [Nat.toDigits_of_lt_base hlt, List.mem_singleton] at h
      exact h ▸ digitChar_mem n
    · rw [Nat.toDigits_of_base_le hbase hge, List.mem_append, List.mem_singleton] at h
      rcases h with h | rfl
      · exact ih (n / base) (Nat.div_lt_self (by omega) hbase) h
      · exact digitChar_mem _

/-- Decimal numerals are of these characters. -/
theorem mem_ofNat {n : Nat} (h : c ∈ ofNat n) : c ∈ numeralCharacters :=
  mem_toDigits (by decide) h

/-- The decimal digits, one by one. -/
theorem mem_of_isDigit {c : Char} (h : c.isDigit = true) : c ∈ "0123456789".toList := by
  have hall : ∀ code ∈ List.range' 48 10, Char.ofNat code ∈ "0123456789".toList := by
    decide +kernel
  have hcode : c.toNat ∈ List.range' 48 10 := by
    rw [List.mem_range'_1]
    simp only [Char.isDigit, Bool.and_eq_true, decide_eq_true_eq] at h
    have hlow : 48 ≤ c.toNat := h.1
    have hhigh : c.toNat ≤ 57 := h.2
    omega
  rw [← Char.ofNat_toNat c]
  exact hall c.toNat hcode

/-- The numeral of an integer is one or more digits, perhaps behind a minus sign. -/
theorem ofInt_eq (n : Int) :
    ∃ sign digits, ofInt n = sign ++ digits ∧ (sign = [] ∨ sign = ['-']) ∧ digits ≠ [] ∧
      ∀ c ∈ digits, c.isDigit = true := by
  cases n with
  | ofNat n =>
    exact ⟨[], ofNat n, rfl, .inl rfl, Nat.toDigits_ne_nil, fun _ => isDigit_of_mem_ofNat⟩
  | negSucc n =>
    exact ⟨['-'], ofNat (n + 1), rfl, .inr rfl, Nat.toDigits_ne_nil,
      fun _ => isDigit_of_mem_ofNat⟩

/-- No integer is written as nothing. -/
theorem ofInt_ne_nil (n : Int) : ofInt n ≠ [] := by
  obtain ⟨sign, digits, heq, -, hdigits, -⟩ := ofInt_eq n
  simp [heq, hdigits]

/-- An integer is written with a minus sign and decimal digits only. -/
theorem mem_ofInt {n : Int} (h : c ∈ ofInt n) : c = '-' ∨ c.isDigit = true := by
  obtain ⟨sign, digits, heq, hsign, -, hdigits⟩ := ofInt_eq n
  rw [heq, List.mem_append] at h
  rcases h with h | h
  · rcases hsign with rfl | rfl
    · cases h
    · exact .inl (List.mem_singleton.mp h)
  · exact .inr (hdigits c h)

/-- A written integer is on one line. -/
theorem newline_not_mem_ofInt (n : Int) : '\n' ∉ ofInt n :=
  fun h => absurd (mem_ofInt h) (by decide)

/-- A written integer reads back. -/
theorem ofInt_injective {m n : Int} (h : ofInt m = ofInt n) : m = n := by
  have hnat : ∀ {m n : Nat}, ofNat m = ofNat n → m = n := fun {m n} h => by
    rw [← decimalValue_ofNat m, h, decimalValue_ofNat]
  have hsign : ∀ m n : Nat, ofNat m ≠ '-' :: ofNat n := fun m n h =>
    absurd (isDigit_of_mem_ofNat (h ▸ List.mem_cons_self)) (by decide)
  -- the sign tells the two kinds of integers apart, as no digit is a minus sign
  cases m with
  | ofNat m =>
    cases n with
    | ofNat n => exact congrArg Int.ofNat (hnat h)
    | negSucc n => exact absurd h (hsign m (n + 1))
  | negSucc m =>
    cases n with
    | ofNat n => exact absurd h.symm (hsign n (m + 1))
    | negSucc n => exact congrArg Int.negSucc (Nat.succ.inj (hnat (List.cons.inj h).2))

/-- Hexadecimal digits with zeros in front are of these characters. -/
theorem mem_hexDigits {places n : Nat} (h : c ∈ hexDigits places n) : c ∈ numeralCharacters := by
  rw [hexDigits, List.mem_append] at h
  rcases h with h | h
  · rw [List.eq_of_mem_replicate h]
    decide +kernel
  · exact mem_toDigits (by decide) h

/-! ## Quoting -/

/-- The characters that quoting adds. -/
def quotingCharacters : Text := "\\'\"nrtxuU".toList ++ numeralCharacters

/-- The beginnings of escapes. -/
def escapes : List Text :=
  [['\\'], "\\n".toList, "\\r".toList, "\\t".toList, "\\x".toList, "\\u".toList, "\\U".toList]

/-- An escape begins with characters that quoting adds. -/
theorem mem_quotingCharacters {escape : Text} (hescape : escape ∈ escapes) (h : c ∈ escape) :
    c ∈ quotingCharacters := by
  have hall : ∀ escape ∈ escapes, escape ⊆ quotingCharacters := by
    decide +kernel
  exact hall escape hescape h

/-- An escape by code point is a beginning of an escape and digits. -/
theorem codeEscape_eq (digits : Nat → Nat → Text) (d : Char) :
    ∃ escape ∈ escapes, ∃ places, codeEscape digits d = escape ++ digits places d.toNat := by
  unfold codeEscape
  split
  · exact ⟨"\\x".toList, by simp [escapes], 2, rfl⟩
  · split
    · exact ⟨"\\u".toList, by simp [escapes], 4, rfl⟩
    · exact ⟨"\\U".toList, by simp [escapes], 8, rfl⟩

/-- Inside quotes a character stands for itself, perhaps behind a backslash, or is escaped. -/
theorem quoteChar_cases (quote d : Char) :
    quoteChar quote d = ['\\'] ++ [d] ∨ quoteChar quote d = [d] ∨
      quoteChar quote d ∈ escapes ∨ quoteChar quote d = codeEscape hexDigits d := by
  unfold quoteChar
  split
  · exact .inl rfl
  · split
    · exact .inr (.inr (.inl (by simp [escapes])))
    · split
      · exact .inr (.inr (.inl (by simp [escapes])))
      · split
        · exact .inr (.inr (.inl (by simp [escapes])))
        · split
          · exact .inr (.inl rfl)
          · exact .inr (.inr (.inr rfl))

/-- What stands for a character inside quotes is that character and what quoting adds. -/
theorem mem_quoteChar {quote d : Char} (h : c ∈ quoteChar quote d) :
    c = d ∨ c ∈ quotingCharacters := by
  rcases quoteChar_cases quote d with hquote | hquote | hquote | hquote
  · rw [hquote, List.mem_append, List.mem_singleton, List.mem_singleton] at h
    rcases h with rfl | h
    · exact .inr (mem_quotingCharacters List.mem_cons_self List.mem_cons_self)
    · exact .inl h
  · rw [hquote, List.mem_singleton] at h
    exact .inl h
  · exact .inr (mem_quotingCharacters hquote h)
  · obtain ⟨escape, hescape, places, heq⟩ := codeEscape_eq hexDigits d
    rw [hquote, heq, List.mem_append] at h
    rcases h with h | h
    · exact .inr (mem_quotingCharacters hescape h)
    · exact .inr (List.mem_append_right _ (mem_hexDigits h))

/-- The quotes are characters that quoting adds. -/
theorem quoteFor_mem (text : Text) : quoteFor text ∈ quotingCharacters := by
  unfold quoteFor
  split <;> decide +kernel

/-- The quoted form of a text holds its characters and those that quoting adds. -/
theorem mem_quoted {text : Text} (h : c ∈ quoted text) : c ∈ text ∨ c ∈ quotingCharacters := by
  simp only [quoted, List.cons_append, List.mem_cons, List.mem_append, List.mem_flatMap,
    List.not_mem_nil, or_false] at h
  rcases h with rfl | ⟨d, hd, h⟩ | rfl
  · exact .inr (quoteFor_mem text)
  · rcases mem_quoteChar h with rfl | h
    · exact .inl hd
    · exact .inr h
  · exact .inr (quoteFor_mem text)

/-! ## Pieces -/

/-- Splitting adds no characters to the pieces. -/
theorem mem_of_mem_splitOn {separator : Char} {text piece : Text}
    (hpiece : piece ∈ splitOn separator text) (h : c ∈ piece) : c ∈ text := by
  -- the cases are those of the splitting: the text is empty, begins with a separator, is the last
  -- character of a piece, or goes on with the piece that was begun
  fun_induction splitOn separator text generalizing piece with
  | case1 =>
    rw [List.mem_singleton.1 hpiece] at h
    cases h
  | case2 text ih =>
    rcases List.mem_cons.1 hpiece with rfl | hpiece
    · cases h
    · exact List.mem_cons_of_mem _ (ih hpiece h)
  | case3 d text hd hsplit ih =>
    rw [List.mem_singleton.1 hpiece, List.mem_singleton] at h
    rw [h]
    exact List.mem_cons_self
  | case4 d text hd first pieces hsplit ih =>
    rw [hsplit] at ih
    rcases List.mem_cons.1 hpiece with rfl | hpiece
    · rcases List.mem_cons.1 h with rfl | h
      · exact List.mem_cons_self
      · exact List.mem_cons_of_mem _ (ih List.mem_cons_self h)
    · exact List.mem_cons_of_mem _ (ih (List.mem_cons_of_mem _ hpiece) h)

/-- Between the pieces stands the separator and nothing else. -/
theorem eq_or_mem_of_mem_intersperse {separator piece : Text} {pieces : List Text}
    (h : piece ∈ pieces.intersperse separator) : piece = separator ∨ piece ∈ pieces := by
  induction pieces with
  | nil => cases h
  | cons first pieces ih =>
    cases pieces with
    | nil => exact .inr h
    | cons second pieces =>
      rw [List.intersperse_cons_cons, List.mem_cons, List.mem_cons] at h
      rcases h with rfl | rfl | h
      · exact .inr List.mem_cons_self
      · exact .inl rfl
      · exact (ih h).imp_right (List.mem_cons_of_mem _)

/-- A joined text has the characters of its separator and of its pieces. -/
theorem mem_intercalate {separator : Text} {pieces : List Text}
    (h : c ∈ List.intercalate separator pieces) :
    c ∈ separator ∨ ∃ piece ∈ pieces, c ∈ piece := by
  obtain ⟨piece, hpiece, hc⟩ := List.mem_flatten.1 h
  rcases eq_or_mem_of_mem_intersperse hpiece with rfl | hpiece
  · exact .inl hc
  · exact .inr ⟨piece, hpiece, hc⟩

end Text

/-! ## Paths -/

namespace Path

variable {path : Path} {text part : Text}

/-- A path that was read from a text has no other characters in its parts. -/
theorem mem_part_ofText (hpart : part ∈ (ofText text).parts) (h : c ∈ part) : c ∈ text :=
  Text.mem_of_mem_splitOn (List.mem_filter.1 hpart).1 h

/-- A written path has the characters of its parts, slashes, and the dot of the empty path. -/
theorem mem_toText (h : c ∈ path.toText) :
    c ∈ ['.', '/'] ∨ ∃ part ∈ path.parts, c ∈ part := by
  unfold toText at h
  split at h
  · rw [List.mem_singleton.1 h]
    exact .inl List.mem_cons_self
  · rcases List.mem_append.1 h with h | h
    · have hslash : c = '/' := by
        cases hanchor : path.anchor <;> simp [hanchor, Anchor.written] at h <;> exact h
      exact .inl (by simp [hslash])
    · exact (Text.mem_intercalate h).imp_left fun h => by simp [List.mem_singleton.1 h]

/-- The system can be asked for a path if nothing ends the text that it was read from. -/
theorem isPassable_ofText (h : '\x00' ∉ text) : (ofText text).isPassable = true := by
  refine List.all_eq_true.2 fun part hpart => ?_
  simpa using fun hmem => h (mem_part_ofText hpart hmem)

end Path

end Famix
