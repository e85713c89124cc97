/-
The messages about files, and that they can be printed.

Every error of an operation on files names the paths that the operation was asked for
(`FileError.paths`), so an export that fails with an error of the system names the target or
its sibling (`exportRecords_error_cases`). What else stands in a message are fixed words, among
them the number of the error in brackets, which is no mark. So only a path can bring a mark into
a message: without a bracket in the paths there is none (`FileError.marksIn_message`).
-/
import Famix.File.Read
import Famix.Proofs.Characters
import Famix.Proofs.Marks
import Famix.Proofs.Replacement

set_option autoImplicit false

namespace Famix

/-! ## Paths without brackets -/

namespace Path

variable {path beside : Path} {text suffix : Text}

/-- No part of the path holds an opening bracket. -/
def Bracketless (path : Path) : Prop := ∀ part ∈ path.parts, '[' ∉ part

/-- A path read from a text without a bracket has none. -/
theorem bracketless_ofText (h : '[' ∉ text) : (ofText text).Bracketless :=
  fun _ hpart hmem => h (mem_part_ofText hpart hmem)

/-- The sibling has the parts of the path, the last with the suffix behind it. -/
theorem Bracketless.sibling (h : path.Bracketless) (hsibling : path.sibling? suffix = some beside)
    (hsuffix : '[' ∉ suffix) : beside.Bracketless := by
  obtain ⟨front, name, hparts, rfl⟩ := sibling?_eq_some_iff.1 hsibling
  intro part hpart
  rcases List.mem_append.1 hpart with hpart | hpart
  · exact h part (hparts ▸ List.mem_append_left _ hpart)
  · rw [List.mem_singleton.1 hpart, List.mem_append, not_or]
    exact ⟨h name (hparts ▸ List.mem_append_right _ List.mem_cons_self), hsuffix⟩

/-- The text of a path adds dots and slashes to its parts, but no bracket. -/
theorem Bracketless.not_mem_toText (h : path.Bracketless) : '[' ∉ path.toText := by
  intro hmem
  rcases mem_toText hmem with hmem | ⟨part, hpart, hmem⟩
  · exact absurd hmem (by decide)
  · exact h part hpart hmem

/-- Quoting adds no bracket either. -/
theorem Bracketless.not_mem_quoted (h : path.Bracketless) : '[' ∉ path.quoted := by
  intro hmem
  rcases Text.mem_quoted hmem with hmem | hmem
  · exact h.not_mem_toText hmem
  · exact absurd hmem (by decide +kernel)

end Path

/-! ## The paths that errors name -/

/-- The paths that an error of an operation names. -/
def FileError.paths (error : FileError) : List Path := error.path :: error.target.toList

namespace FileSystem

variable {files : FileSystem} {path target temporary : Path} {content : Utf8.Bytes}
  {cause : FileError} {mishap : Option Mishap}

/-- What cannot be read is named by its path. -/
theorem readFile_error_paths (h : files.readFile path = .error cause) : cause.paths = [path] := by
  unfold readFile at h
  split at h
  · cases h
    rfl
  · split at h <;> cases h <;> rfl

/-- What cannot be written is named by its path. -/
theorem writeFile_error_paths (h : files.writeFile path content = .error cause) :
    cause.paths = [path] := by
  unfold writeFile at h
  split at h
  · cases h
    rfl
  · split at h <;> cases h
    rfl

/-- What cannot be removed is named by its path. -/
theorem removeFile_error_paths (h : files.removeFile path = .error cause) :
    cause.paths = [path] := by
  unfold removeFile at h
  split at h
  · cases h
    rfl
  · split at h <;> cases h <;> rfl

/-- What cannot be asked for is named by its path. -/
theorem holds_error_paths (h : files.holds path = .error cause) : cause.paths = [path] := by
  unfold holds at h
  split at h <;> cases h
  rfl

/-- A move that fails names where from and where to. -/
theorem moveFile_error_paths (h : files.moveFile path target = .error cause) :
    cause.paths = [path, target] := by
  unfold moveFile at h
  split at h
  · cases h
    rfl
  · cases h
    rfl
  · split at h
    · cases h
      rfl
    · split at h <;> cases h <;> rfl

/-! ## Why reading and exporting fail -/

/-- A text file that cannot be read for an error of the system is named by its path. -/
theorem readText_error_paths {path : Path} (h : files.readText path = .error (.file cause)) :
    cause.paths = [path] := by
  unfold readText at h
  split at h
  · cases h
  · split at h
    · next hread =>
      cases h
      exact readFile_error_paths hread
    · split at h <;> cases h

/-- Only a path that cannot be given to the system is called impassable. -/
theorem isPassable_of_readText_eq_impassable {path : Path}
    (h : files.readText path = .error .impassable) : path.isPassable = false := by
  unfold readText at h
  split at h
  · next hpassable => simpa using hpassable
  · split at h
    · cases h
    · split at h <;> cases h

/-- A write that was made to fail names the path as one that fails by itself does. -/
theorem writeFileWith_error_paths {after : FileSystem}
    (h : files.writeFileWith mishap path content = (after, .error cause)) :
    cause.paths = [path] := by
  unfold writeFileWith at h
  split at h
  · split at h
    · cases h
      rfl
    · next hwrite =>
      cases h
      exact writeFile_error_paths hwrite
  · split at h
    · cases h
    · next hwrite =>
      cases h
      exact writeFile_error_paths hwrite

/-- A move that was made to fail names both paths as one that fails by itself does. -/
theorem moveFileWith_error_paths (h : files.moveFileWith mishap path target = .error cause) :
    cause.paths = [path, target] := by
  unfold moveFileWith at h
  split at h
  · cases h
    rfl
  · exact moveFile_error_paths h

/-- Giving up ends with the cause, or with an error about the sibling. -/
theorem giveUp_error_cases {error : ExportError}
    (h : (files.giveUp temporary target cause).2 = .error error) :
    error = .failed target cause ∨ ∃ worse, error = .stuck worse ∧ worse.paths = [temporary] := by
  unfold giveUp at h
  split at h
  · next worse hholds =>
    cases h
    exact .inr ⟨worse, rfl, holds_error_paths hholds⟩
  · cases h
    exact .inl rfl
  · split at h
    · cases h
      exact .inl rfl
    · next worse hremove =>
      cases h
      exact .inr ⟨worse, rfl, removeFile_error_paths hremove⟩

/-- An error of the system that names the two paths of an export only. -/
def IsExportFailure (target temporary : Path) (error : ExportError) : Prop :=
  ∃ cause : FileError, (error = .failed target cause ∨ error = .stuck cause) ∧
    ∀ path ∈ cause.paths, path = target ∨ path = temporary

/-- To give up adds no other path to those of the cause. -/
theorem isExportFailure_giveUp {error : ExportError}
    (hcause : ∀ path ∈ cause.paths, path = target ∨ path = temporary)
    (h : (files.giveUp temporary target cause).2 = .error error) :
    IsExportFailure target temporary error := by
  rcases giveUp_error_cases h with rfl | ⟨worse, rfl, hworse⟩
  · exact ⟨cause, .inl rfl, hcause⟩
  · refine ⟨worse, .inr rfl, fun path hpath => ?_⟩
    rw [hworse, List.mem_singleton] at hpath
    exact .inr hpath

/-- Once there is a sibling, the writing fails because the sibling cannot be given to the system, or
with an error of the system about the two paths. -/
theorem replaceFile_error_cases {text : Text} {error : ExportError}
    (hsibling : target.sibling? temporarySuffix = some temporary)
    (h : (files.replaceFile mishap target text).2 = .error error) :
    (temporary.isPassable = false ∧ error = .impassable) ∨
      IsExportFailure target temporary error := by
  unfold replaceFile at h
  rw [hsibling] at h
  split at h
  · next heq => cases heq
  next other heq =>
  obtain rfl := Option.some.inj heq
  split at h
  · next hpassable =>
    cases h
    exact .inl ⟨by simpa using hpassable, rfl⟩
  -- the write fails, or the move behind it
  refine .inr ?_
  split at h
  · next after cause hwrite =>
    refine isExportFailure_giveUp (fun path hpath => ?_) h
    rw [writeFileWith_error_paths hwrite, List.mem_singleton] at hpath
    exact .inr hpath
  · split at h
    · cases h
    · next cause hmove =>
      refine isExportFailure_giveUp (fun path hpath => ?_) h
      rw [moveFileWith_error_paths hmove, List.mem_cons, List.mem_singleton] at hpath
      exact hpath.symm

/-- **Why an export fails.** There is no text, the target has no name, the system cannot be
asked for the sibling, or it refuses an operation on the target or its sibling. -/
theorem exportRecords_error_cases {entities : List Entity} {error : ExportError}
    (h : (files.exportRecords mishap entities target).2 = .error error) :
    (∃ cause, Yaml.document entities = .error cause ∧ error = .unwritten cause) ∨
    (target.name? = none ∧ error = .emptyName target) ∨
    ∃ temporary, target.sibling? temporarySuffix = some temporary ∧
      ((temporary.isPassable = false ∧ error = .impassable) ∨
        IsExportFailure target temporary error) := by
  unfold exportRecords at h
  split at h
  · next cause hdocument =>
    cases h
    exact .inl ⟨cause, hdocument, rfl⟩
  refine .inr ?_
  cases hsibling : target.sibling? temporarySuffix with
  | none =>
    simp only [replaceFile, hsibling] at h
    cases h
    exact .inl ⟨Option.map_eq_none_iff.1 hsibling, rfl⟩
  | some temporary => exact .inr ⟨temporary, rfl, replaceFile_error_cases hsibling h⟩

end FileSystem

/-! ## Messages without marks -/

open Markup

/-- A numeral holds no bracket. -/
theorem Text.bracket_not_mem_ofNat (n : Nat) : '[' ∉ Text.ofNat n := fun hmem =>
  absurd (Text.mem_ofNat hmem) (by decide)

/-- The number of an error stands in brackets that are no mark. -/
theorem marksIn_kindMessage_append (kind : FileErrorKind) (text : Text) :
    marksIn (FileError.kindMessage kind ++ text) = marksIn text := by
  -- the bracket is followed by a letter that no mark begins with
  obtain ⟨rest, hmessage, hrest⟩ : ∃ rest,
      FileError.kindMessage kind = '[' :: 'E' :: rest ∧ '[' ∉ 'E' :: rest := by
    refine ⟨(FileError.kindMessage kind).drop 2, ?_⟩
    cases kind <;> decide +kernel
  rw [hmessage, List.cons_append, List.cons_append,
    marksIn_cons_of_not_startsMark (by decide), ← List.cons_append, marksIn_append hrest]

/-- Without brackets in its paths an error has a message without marks. -/
theorem FileError.marksIn_message {error : FileError}
    (h : ∀ path ∈ error.paths, path.Bracketless) : marksIn error.message = [] := by
  have hpath := (h error.path List.mem_cons_self).not_mem_quoted
  rw [message, List.append_assoc, List.append_assoc, marksIn_kindMessage_append]
  refine marksIn_eq_nil ?_
  cases htarget : error.target with
  | none => simp [hpath]
  | some target =>
    have hmem : target ∈ error.paths := by simp [paths, htarget]
    simp [hpath, (h target hmem).not_mem_quoted]

/-- An export that the system refuses has a message without marks if the target has no bracket
in it. -/
theorem FileSystem.IsExportFailure.marksIn_message {target temporary : Path}
    {error : ExportError} (h : IsExportFailure target temporary error)
    (hsibling : target.sibling? temporarySuffix = some temporary) (htarget : target.Bracketless) :
    marksIn error.message = [] := by
  obtain ⟨cause, herror, hpaths⟩ := h
  have hcause : marksIn cause.message = [] := by
    refine cause.marksIn_message fun path hpath => ?_
    rcases hpaths path hpath with rfl | rfl
    · exact htarget
    · exact htarget.sibling hsibling (by decide)
  rcases herror with rfl | rfl
  · have hlead : '[' ∉ "Export to ".toList ++ target.toText ++ " failed: ".toList := by
      simp [htarget.not_mem_toText]
    exact (marksIn_append hlead cause.message).trans hcause
  · exact hcause

/-- The message about bytes that are no text holds no bracket at all. -/
theorem Utf8.DecodeError.marksIn_message (error : Utf8.DecodeError) :
    marksIn error.message = [] := by
  have hhex : '[' ∉ Text.hexDigits 2 error.first.toNat := fun hmem =>
    absurd (Text.mem_hexDigits hmem) (by decide)
  have hreason : '[' ∉ error.reason.message := by
    cases error.reason <;> decide +kernel
  refine marksIn_eq_nil ?_
  unfold message
  split <;> simp [hhex, Text.bracket_not_mem_ofNat, hreason]

end Famix
