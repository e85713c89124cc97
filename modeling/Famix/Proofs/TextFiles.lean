/-
What a text file says does not depend on how it was written.

Writing a character as bytes and reading the bytes gives the character back, for each of the four
lengths (`decodeFrom_encodeChar`), so reading undoes writing (`decode_encode`). A mark in front is
left out once (`withoutMark_mark_append`), and bytes without a mark are taken for one only if the
text begins with the character of the mark (`withoutMark_encode`). Line ends of any style become
newlines again (`unifyLineEnds_withLineEnds`).
-/
import Famix.File.Read
import Famix.Proofs.Frame
import Mathlib.Data.List.Infix

set_option autoImplicit false

namespace Famix.Utf8

variable {lead second third fourth : UInt8} {rest : Bytes} {c : Char} {text : Text}

/-! ## Characters as bytes -/

/-- Characters are written in the standard encoding. -/
theorem encodeChar_eq (c : Char) : encodeChar c = String.utf8EncodeChar c := by
  have hbound : c.toNat < 0x110000 :=
    c.valid.elim (fun h => Nat.lt_trans h (by decide)) And.right
  have hvalue : c.val.toNat = c.toNat := rfl
  have htrailing (n : Nat) : n % 64 + 128 = 0x80 + n % 64 := Nat.add_comm _ _
  simp only [encodeChar, String.utf8EncodeChar, hvalue, htrailing]
  have hle_one : c.toNat ≤ 127 ↔ c.toNat < 0x80 := by omega
  have hle_two : c.toNat ≤ 2047 ↔ c.toNat < 0x800 := by omega
  have hle_three : c.toNat ≤ 65535 ↔ c.toNat < 0x10000 := by omega
  simp only [hle_one, hle_two, hle_three]
  -- for each length the remainders that the standard takes of the lead byte are no restriction
  split_ifs with hone htwo hthree
  · rfl
  · have hlead : c.toNat / 64 % 32 + 192 = 0xc0 + c.toNat / 64 := by omega
    rw [hlead]
  · have hlead : c.toNat / 4096 % 16 + 224 = 0xe0 + c.toNat / 4096 := by omega
    rw [hlead]
  · have hlead : c.toNat / 262144 % 8 + 240 = 0xf0 + c.toNat / 262144 := by omega
    rw [hlead]

/-- Texts are written in the standard encoding. -/
theorem encode_eq (text : Text) : encode text = text.flatMap String.utf8EncodeChar := by
  rw [encode, funext encodeChar_eq]

/-- A number below 256 is a byte of that value. -/
theorem toNat_byte {n : Nat} (h : n < 256) : (UInt8.ofNat n).toNat = n :=
  UInt8.toNat_ofNat_of_lt' h

/-- A byte may be the second if it is in the common range and keeps to the bounds of the four lead
bytes that narrow it. -/
theorem maySecond_of (hlow : 0x80 ≤ second.toNat) (hhigh : second.toNat ≤ 0xbf)
    (he0 : lead.toNat = 0xe0 → 0xa0 ≤ second.toNat)
    (hed : lead.toNat = 0xed → second.toNat ≤ 0x9f)
    (hf0 : lead.toNat = 0xf0 → 0x90 ≤ second.toNat)
    (hf4 : lead.toNat = 0xf4 → second.toNat ≤ 0x8f) : maySecond lead second = true := by
  simp only [← UInt8.toNat_inj, maySecond, UInt8.le_iff_toNat_le, Bool.and_eq_true,
    decide_eq_true_eq]
  split_ifs <;> simp_all

/-- The bytes behind the first one carry six bits each. -/
theorem toNat_trailing (n : Nat) : (UInt8.ofNat (0x80 + n % 64)).toNat = 0x80 + n % 64 :=
  toNat_byte (by omega)

/-- What is written behind the first byte is admitted there when it is read. -/
theorem mayFollow_trailing (n : Nat) : mayFollow (UInt8.ofNat (0x80 + n % 64)) = true := by
  simp only [mayFollow, UInt8.le_iff_toNat_le, Bool.and_eq_true, decide_eq_true_eq]
  rw [toNat_trailing]
  constructor
  · exact Nat.le_add_right _ _
  · show 0x80 + n % 64 ≤ 0xbf
    omega

/-- The bits of a character put together are the character. -/
theorem assemble_eq {bits : Nat}
    (h : rest.foldl (fun value byte => value * 64 + (byte.toNat - 0x80)) bits = c.toNat) :
    assemble bits rest = c := by
  rw [assemble, h, Char.ofNat_toNat]

section

variable (position : Nat) (read : Text)

/-- A byte below 128 is read as a character of its own. -/
theorem decodeFrom_one (h : lead.toNat < 0x80) :
    decodeFrom position read (lead :: rest) =
      decodeFrom (position + 1) (assemble lead.toNat [] :: read) rest := by
  rw [decodeFrom.eq_def]
  exact if_pos (UInt8.lt_iff_toNat_lt.mpr h)

/-- A byte with which a longer character begins is neither a character of its own nor out of
place. -/
theorem lead_of_long (lead : UInt8) (hlow : 0xc2 ≤ lead.toNat) (hhigh : lead.toNat ≤ 0xf4) :
    ¬lead < 0x80 ∧ ¬((lead < 0xc2 || 0xf4 < lead) = true) := by
  simp only [UInt8.lt_iff_toNat_lt, Bool.or_eq_true, decide_eq_true_eq]
  constructor
  · show ¬lead.toNat < 0x80
    omega
  · show ¬(lead.toNat < 0xc2 ∨ 0xf4 < lead.toNat)
    omega

/-- A lead byte of two and a second byte are read as one character. -/
theorem decodeFrom_two (hlow : 0xc2 ≤ lead.toNat) (hhigh : lead.toNat < 0xe0)
    (hsecond : maySecond lead second = true) :
    decodeFrom position read (lead :: second :: rest) =
      decodeFrom (position + 2) (assemble (lead.toNat - 0xc0) [second] :: read) rest := by
  obtain ⟨hascii, hlead⟩ := lead_of_long lead hlow (by omega)
  have htwo : lead < 0xe0 := UInt8.lt_iff_toNat_lt.mpr hhigh
  rw [decodeFrom.eq_def]
  dsimp only
  rw [if_neg hascii, if_neg hlead, if_neg (by simp [hsecond]), if_pos htwo]

/-- A lead byte of three and two more are read as one character. -/
theorem decodeFrom_three (hlow : 0xe0 ≤ lead.toNat) (hhigh : lead.toNat < 0xf0)
    (hsecond : maySecond lead second = true) (hthird : mayFollow third = true) :
    decodeFrom position read (lead :: second :: third :: rest) =
      decodeFrom (position + 3) (assemble (lead.toNat - 0xe0) [second, third] :: read) rest := by
  obtain ⟨hascii, hlead⟩ := lead_of_long lead (by omega) (by omega)
  have htwo : ¬lead < 0xe0 := UInt8.not_lt.mpr (UInt8.le_iff_toNat_le.mpr hlow)
  have hthree : lead < 0xf0 := UInt8.lt_iff_toNat_lt.mpr hhigh
  rw [decodeFrom.eq_def]
  dsimp only
  rw [if_neg hascii, if_neg hlead, if_neg (by simp [hsecond]), if_neg htwo,
    if_neg (by simp [hthird]), if_pos hthree]

/-- A lead byte of four and three more are read as one character. -/
theorem decodeFrom_four (hlow : 0xf0 ≤ lead.toNat) (hhigh : lead.toNat ≤ 0xf4)
    (hsecond : maySecond lead second = true) (hthird : mayFollow third = true)
    (hfourth : mayFollow fourth = true) :
    decodeFrom position read (lead :: second :: third :: fourth :: rest) =
      decodeFrom (position + 4)
        (assemble (lead.toNat - 0xf0) [second, third, fourth] :: read) rest := by
  obtain ⟨hascii, hlead⟩ := lead_of_long lead (by omega) (by omega)
  have hthree : ¬lead < 0xf0 := UInt8.not_lt.mpr (UInt8.le_iff_toNat_le.mpr hlow)
  have htwo : ¬lead < 0xe0 := fun h => hthree (UInt8.lt_trans h (by decide))
  rw [decodeFrom.eq_def]
  dsimp only
  rw [if_neg hascii, if_neg hlead, if_neg (by simp [hsecond]), if_neg htwo,
    if_neg (by simp [hthird]), if_neg hthree, if_neg (by simp [hfourth])]

/-- Reading the bytes of a character gives the character. -/
theorem decodeFrom_encodeChar (c : Char) (rest : Bytes) :
    ∃ next, decodeFrom position read (encodeChar c ++ rest) = decodeFrom next (c :: read) rest := by
  have hvalid : c.toNat < 0xd800 ∨ 0xdfff < c.toNat ∧ c.toNat < 0x110000 := c.valid
  have htrailing := toNat_trailing
  -- the bounds of each length, and that no character is a surrogate, keep the second byte in the
  -- narrower ranges that some lead bytes ask for
  rw [encodeChar]
  split_ifs with hone htwo hthree
  · have hlead : (UInt8.ofNat c.toNat).toNat = c.toNat := toNat_byte (by omega)
    have hchar : assemble (UInt8.ofNat c.toNat).toNat [] = c := assemble_eq hlead
    refine ⟨position + 1, ?_⟩
    rw [List.cons_append, decodeFrom_one position read (by omega), hchar, List.nil_append]
  · have hlead : (UInt8.ofNat (0xc0 + c.toNat / 64)).toNat = 0xc0 + c.toNat / 64 :=
      toNat_byte (by omega)
    have hsecond : maySecond (UInt8.ofNat (0xc0 + c.toNat / 64))
        (UInt8.ofNat (0x80 + c.toNat % 64)) = true := by
      apply maySecond_of <;> rw [toNat_trailing] <;> omega
    refine ⟨position + 2, ?_⟩
    rw [List.cons_append, List.cons_append, List.nil_append,
      decodeFrom_two position read (by omega) (by omega) hsecond, assemble_eq]
    simp only [List.foldl_cons, List.foldl_nil, hlead, htrailing]
    omega
  · have hlead : (UInt8.ofNat (0xe0 + c.toNat / 4096)).toNat = 0xe0 + c.toNat / 4096 :=
      toNat_byte (by omega)
    have hsecond : maySecond (UInt8.ofNat (0xe0 + c.toNat / 4096))
        (UInt8.ofNat (0x80 + c.toNat / 64 % 64)) = true := by
      apply maySecond_of <;> rw [toNat_trailing] <;> omega
    refine ⟨position + 3, ?_⟩
    rw [List.cons_append, List.cons_append, List.cons_append, List.nil_append,
      decodeFrom_three position read (by omega) (by omega) hsecond (mayFollow_trailing _),
      assemble_eq]
    simp only [List.foldl_cons, List.foldl_nil, hlead, htrailing]
    omega
  · have hlead : (UInt8.ofNat (0xf0 + c.toNat / 262144)).toNat = 0xf0 + c.toNat / 262144 :=
      toNat_byte (by omega)
    have hsecond : maySecond (UInt8.ofNat (0xf0 + c.toNat / 262144))
        (UInt8.ofNat (0x80 + c.toNat / 4096 % 64)) = true := by
      apply maySecond_of <;> rw [toNat_trailing] <;> omega
    refine ⟨position + 4, ?_⟩
    rw [List.cons_append, List.cons_append, List.cons_append, List.cons_append, List.nil_append,
      decodeFrom_four position read (by omega) (by omega) hsecond (mayFollow_trailing _)
        (mayFollow_trailing _), assemble_eq]
    simp only [List.foldl_cons, List.foldl_nil, hlead, htrailing]
    omega

end

/-- What was written is read behind what was read before. -/
theorem decodeFrom_encode (position : Nat) (read text : Text) :
    decodeFrom position read (encode text) = .ok (read.reverse ++ text) := by
  -- positions only matter to errors, and what was read before is kept in front
  induction text generalizing position read with
  | nil => rw [encode, List.flatMap_nil, decodeFrom, List.append_nil]
  | cons c text ih =>
    obtain ⟨next, hnext⟩ := decodeFrom_encodeChar position read c (encode text)
    rw [encode, List.flatMap_cons, ← encode, hnext, ih]
    simp

/-- Reading undoes writing. -/
theorem decode_encode (text : Text) : decode (encode text) = .ok text :=
  decodeFrom_encode 0 [] text

/-- Different texts are written differently. -/
theorem encode_injective {text other : Text} (h : encode text = encode other) : text = other := by
  have hok : (.ok text : Except DecodeError Text) = .ok other := by
    rw [← decode_encode text, h, decode_encode]
  exact Except.ok.inj hok

/-! ## The mark -/

/-- The character whose bytes are the mark. -/
def markCharacter : Char := '\ufeff'

/-- The mark is how its character is written. -/
theorem encode_markCharacter : encode [markCharacter] = mark := by decide

/-- Exactly one mark is left out. -/
theorem withoutMark_mark_append (bytes : Bytes) : withoutMark (mark ++ bytes) = bytes := by
  rw [withoutMark, if_pos (List.isPrefixOf_iff_prefix.mpr (List.prefix_append mark bytes))]
  exact List.drop_left

/-- A character is at least one byte. -/
theorem exists_encodeChar_eq_cons (c : Char) : ∃ lead tail, encodeChar c = lead :: tail := by
  rw [encodeChar]
  split_ifs <;> exact ⟨_, _, rfl⟩

/-- Bytes that begin with something else are not those of the mark. -/
theorem cons_byte_ne {n : Nat} {tail other : Bytes} (hbyte : n < 256) (hne : n ≠ 0xef) :
    UInt8.ofNat n :: tail ≠ 0xef :: other := by
  intro h
  have hlead := congrArg UInt8.toNat (List.cons.inj h).1
  rw [toNat_byte hbyte] at hlead
  exact hne hlead

/-- A character whose bytes begin as the mark does has as many of them. -/
theorem exists_encodeChar_eq {tail : Bytes} (h : encodeChar c = 0xef :: tail) :
    ∃ second third, tail = [second, third] := by
  have hvalid : c.toNat < 0xd800 ∨ 0xdfff < c.toNat ∧ c.toNat < 0x110000 := c.valid
  rw [encodeChar] at h
  -- only three bytes begin with the byte of the mark
  split_ifs at h with hone htwo hthree
  · exact absurd h (cons_byte_ne (by omega) (by omega))
  · exact absurd h (cons_byte_ne (by omega) (by omega))
  · exact ⟨_, _, (List.cons.inj h).2.symm⟩
  · exact absurd h (cons_byte_ne (by omega) (by omega))

/-- Text whose bytes agree with the mark as far as both go begins with the character of the
mark. -/
theorem eq_markCharacter_of_agrees
    (h : mark <+: encode (c :: text) ∨ encode (c :: text) <+: mark) : c = markCharacter := by
  obtain ⟨lead, tail, hchar⟩ := exists_encodeChar_eq_cons c
  have hencode : encode (c :: text) = lead :: (tail ++ encode text) := by
    rw [encode, List.flatMap_cons, hchar]
    rfl
  have hlead : lead = 0xef := by
    rw [hencode, mark, List.cons_prefix_cons, List.cons_prefix_cons] at h
    exact h.elim (fun h => h.1.symm) fun h => h.1
  -- all three bytes are those of the mark, and no other character has them
  obtain ⟨second, third, rfl⟩ := exists_encodeChar_eq (hlead ▸ hchar)
  have hrest : second = 0xbb ∧ third = 0xbf := by
    rw [hencode, mark] at h
    simp only [List.cons_append, List.cons_prefix_cons] at h
    exact h.elim (fun h => ⟨h.2.1.symm, h.2.2.1.symm⟩) fun h => ⟨h.2.1, h.2.2.1⟩
  have hsame : encode [c] = encode [markCharacter] := by
    rw [encode_markCharacter, encode, List.flatMap_singleton, hchar, hlead, hrest.1, hrest.2]
    rfl
  exact (List.cons.inj (encode_injective hsame)).1

/-- Text without the character of the mark in front is not taken for a mark, nor for a part of
one. -/
theorem withoutMark_encode (h : text.head? ≠ some markCharacter) :
    withoutMark (encode text) = encode text := by
  -- an empty text has no bytes, and with the mark of three bytes it agrees in none
  cases text with
  | nil => rfl
  | cons c text =>
    have hne : c ≠ markCharacter := fun heq => h (congrArg some heq)
    have hprefix : ¬mark.isPrefixOf (encode (c :: text)) = true := fun hmark =>
      hne (eq_markCharacter_of_agrees (.inl (List.isPrefixOf_iff_prefix.mp hmark)))
    have hpart : ¬(encode (c :: text)).isPrefixOf mark = true := fun hmark =>
      hne (eq_markCharacter_of_agrees (.inr (List.isPrefixOf_iff_prefix.mp hmark)))
    rw [withoutMark, if_neg hprefix, if_neg hpart]

/-! ## Line ends -/

/-- A style in which lines are ended. -/
inductive LineEnd where
  | newline
  | both
  | carriageReturn
deriving DecidableEq, Repr

/-- What ends a line. -/
def LineEnd.written : LineEnd → Text
  | newline => ['\n']
  | both => ['\r', '\n']
  | carriageReturn => ['\r']

/-- A text with line ends of one style for its newlines. -/
def withLineEnds (style : LineEnd) (text : Text) : Text :=
  text.flatMap fun c => if c = '\n' then style.written else [c]

/-- A newline is replaced by what the style writes. -/
theorem withLineEnds_newline (style : LineEnd) (text : Text) :
    withLineEnds style ('\n' :: text) = style.written ++ withLineEnds style text := by
  rw [withLineEnds, List.flatMap_cons, if_pos rfl, ← withLineEnds]

/-- Any other character stays. -/
theorem withLineEnds_cons (style : LineEnd) (hc : c ≠ '\n') :
    withLineEnds style (c :: text) = c :: withLineEnds style text := by
  rw [withLineEnds, List.flatMap_cons, if_neg hc, ← withLineEnds]
  rfl

/-- Where carriage returns end lines, no newline is left that one could go with. -/
theorem newline_not_mem_withLineEnds (text : Text) :
    '\n' ∉ withLineEnds .carriageReturn text := by
  intro h
  obtain ⟨c, -, hc⟩ := List.mem_flatMap.mp h
  split_ifs at hc with heq
  · exact absurd hc (by decide)
  · exact heq (List.mem_singleton.mp hc).symm

/-- What is no carriage return is read as it is. -/
theorem unifyFrom_cons (read rest : Text) (hc : c ≠ '\r') :
    unifyFrom read (c :: rest) = unifyFrom (c :: read) rest := by
  rw [unifyFrom]
  · exact fun _ heq => absurd heq hc
  · exact hc

/-- A carriage return is a newline. It is not joined with a newline behind it if there is none in
what is left. -/
theorem unifyFrom_carriageReturn (read : Text) {rest : Text} (h : '\n' ∉ rest) :
    unifyFrom read ('\r' :: rest) = unifyFrom ('\n' :: read) rest := by
  rw [unifyFrom]
  rintro other rfl
  exact h List.mem_cons_self

/-- Reading undoes the line ends behind what was read before. -/
theorem unifyFrom_withLineEnds (style : LineEnd) (read : Text) (h : '\r' ∉ text) :
    unifyFrom read (withLineEnds style text) = read.reverse ++ text := by
  -- each step takes in one character of the text, whether one or two stand for it
  induction text generalizing read with
  | nil =>
    rw [withLineEnds, List.flatMap_nil, unifyFrom, List.append_nil]
  | cons c text ih =>
    rw [List.mem_cons, not_or] at h
    have hone : unifyFrom (c :: read) (withLineEnds style text) = read.reverse ++ c :: text := by
      rw [ih _ h.2, List.reverse_cons, List.append_assoc]
      rfl
    by_cases hc : c = '\n'
    · -- each style ends the line with something else that is read as one newline
      subst hc
      rw [withLineEnds_newline]
      cases style with
      | newline => exact (unifyFrom_cons read _ (by decide)).trans hone
      | both =>
        rw [← hone]
        exact unifyFrom.eq_2 read _
      | carriageReturn =>
        exact (unifyFrom_carriageReturn read (newline_not_mem_withLineEnds text)).trans hone
    · rw [withLineEnds_cons style hc, unifyFrom_cons read _ (Ne.symm h.1), hone]

/-- Line ends of any style are newlines again when they are read. -/
theorem unifyLineEnds_withLineEnds (style : LineEnd) (h : '\r' ∉ text) :
    unifyLineEnds (withLineEnds style text) = text :=
  unifyFrom_withLineEnds style [] h

/-! ## Whole files -/

/-- The bytes of a text file in the standard encoding, with line ends of one style, and perhaps
with a mark in front. -/
def fileBytes (marked : Bool) (style : LineEnd) (text : Text) : Bytes :=
  (if marked then mark else []) ++ (withLineEnds style text).flatMap String.utf8EncodeChar

/-- No style ends a line with the character of the mark. -/
theorem head?_withLineEnds (style : LineEnd) (h : text.head? ≠ some markCharacter) :
    (withLineEnds style text).head? ≠ some markCharacter := by
  cases text with
  | nil => exact h
  | cons c text =>
    by_cases hc : c = '\n'
    · subst hc
      rw [withLineEnds_newline]
      cases style <;> exact fun heq => absurd (Option.some.inj heq) (by decide)
    · rw [withLineEnds_cons style hc]
      exact h

/-- Reading a text file gives the text that was written. A text that begins with the character
of the mark must have been written with a mark. -/
theorem textOfFile_fileBytes {marked : Bool} (style : LineEnd) (hreturn : '\r' ∉ text)
    (hmark : text.head? = some markCharacter → marked = true) :
    textOfFile (fileBytes marked style text) = .ok text := by
  have hbytes : withoutMark (fileBytes marked style text) = encode (withLineEnds style text) := by
    rw [fileBytes, ← encode_eq]
    cases marked with
    | true => exact withoutMark_mark_append _
    | false =>
      have hhead : text.head? ≠ some markCharacter := fun h => Bool.false_ne_true (hmark h)
      exact withoutMark_encode (head?_withLineEnds style hhead)
  rw [textOfFile, hbytes, decode_encode]
  exact congrArg Except.ok (unifyLineEnds_withLineEnds style hreturn)

end Famix.Utf8

namespace Famix.FileSystem

open Utf8

variable {files : FileSystem} {path : Path}

/-- The content of a file is what is read. -/
theorem readFile_of_at? {content : Bytes} (h : files.at? path = some (.file content)) :
    files.readFile path = .ok content := by
  obtain ⟨-, place, hplace, hnode⟩ := at?_eq_some_iff.mp h
  simp [readFile, hplace, hnode]

/-- The text of a file is what its content says, if it says a text. -/
theorem readText_of_at? {content : Bytes} {text : Text}
    (h : files.at? path = some (.file content)) (htext : textOfFile content = .ok text) :
    files.readText path = .ok text := by
  have hpassable := (at?_eq_some_iff.mp h).1
  simp [readText, hpassable, readFile_of_at? h, htext]

/-- Reading a model from a file comes to the same as reading it from the text that was written
there, whichever the style of the line ends, with a mark in front or without. -/
theorem readModelAt_eq {text : Text} {marked : Bool} {style : LineEnd} (hreturn : '\r' ∉ text)
    (hmark : text.head? = some markCharacter → marked = true)
    (hfile : files.at? path = some (.file (fileBytes marked style text))) :
    files.readModelAt path = .ok (readModel text) := by
  rw [readModelAt, readText_of_at? hfile (textOfFile_fileBytes style hreturn hmark)]
  rfl

/-- A marked file with carriage returns and newlines, and with characters of two, three and four
bytes. -/
theorem readModelAt_eq_of_marked :
    ∃ text content, ∃ files : FileSystem,
      text = "((FAMIX.Attribute\n(name 'é€🙂')\n(parentType (ref: 3))))".toList ∧
      content = fileBytes true .both text ∧ files = { nodes := [(["m".toList], .file content)] } ∧
      '\r' ∉ text ∧ (text.head? = some markCharacter → true = true) ∧
      files.at? (Path.ofText "m".toList) = some (.file content) ∧
      files.readModelAt (Path.ofText "m".toList) =
        .ok (.ok ⟨[.attributeRecord "é€🙂".toList 3], true, []⟩) := by
  obtain ⟨text, htext⟩ : ∃ text : Text,
    text = "((FAMIX.Attribute\n(name 'é€🙂')\n(parentType (ref: 3))))".toList := ⟨_, rfl⟩
  obtain ⟨content, hcontent⟩ : ∃ content, content = fileBytes true .both text := ⟨_, rfl⟩
  obtain ⟨files, hfiles⟩ : ∃ files : FileSystem,
    files = { nodes := [(["m".toList], .file content)] } := ⟨_, rfl⟩
  have hreturn : '\r' ∉ text := by
    rw [htext]
    decide
  have hfile : files.at? (Path.ofText "m".toList) = some (.file content) := by
    rw [hfiles]
    rfl
  have hread : readModel text = .ok ⟨[.attributeRecord "é€🙂".toList 3], true, []⟩ := by
    rw [htext]
    rfl
  refine ⟨text, content, files, htext, hcontent, hfiles, hreturn, fun _ => rfl, hfile, ?_⟩
  rw [readModelAt_eq hreturn (fun _ => rfl) (hcontent ▸ hfile), hread]

end Famix.FileSystem
