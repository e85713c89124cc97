/-
Exporting replaces the target as a whole or leaves it as it was.

The text goes to the temporary sibling first, and the sibling takes the target's place. The two
paths lead to different places below one directory (`locate_sibling`), so whatever happens to
the sibling, the target keeps its content until the move; and a failed step ends with the
removal of a file at the sibling (`kept_giveUp`). A mishap from outside may strike at either
step and changes nothing of this.

When the export succeeds is said without running it (`Replaceable`). Only records without a text
are refused before the first step, and then nothing is tidied up either
(`at?_exportRecords_of_unwritten`).
-/
import Famix.File.Export
import Famix.Proofs.Frame

set_option autoImplicit false

namespace Famix

/-! ## The temporary sibling -/

namespace Path

variable {path sibling : Path} {suffix : Text}

theorem sibling?_eq_some_iff :
    path.sibling? suffix = some sibling ↔
      ∃ front name, path.parts = front ++ [name] ∧
        sibling = { path with parts := front ++ [name ++ suffix] } := by
  rw [sibling?, Option.map_eq_some_iff]
  constructor
  · rintro ⟨name, hname, rfl⟩
    obtain ⟨front, hparts⟩ := List.getLast?_eq_some_iff.1 hname
    refine ⟨front, name, hparts, ?_⟩
    rw [hparts, List.dropLast_concat]
  · rintro ⟨front, name, hparts, rfl⟩
    refine ⟨name, ?_, ?_⟩
    · rw [name?, hparts, List.getLast?_concat]
    · rw [hparts, List.dropLast_concat]

/-- The system can be asked for the sibling exactly if it can be asked for the path. -/
theorem isPassable_sibling (h : path.sibling? suffix = some sibling)
    (hsuffix : '\x00' ∉ suffix) : sibling.isPassable = path.isPassable := by
  obtain ⟨front, name, hparts, rfl⟩ := sibling?_eq_some_iff.1 h
  have hcontains : (name ++ suffix).contains '\x00' = name.contains '\x00' := by
    simp [hsuffix]
  simp only [isPassable, hparts, List.all_append, List.all_cons, List.all_nil, hcontains]

end Path

namespace FileSystem

variable {files after : FileSystem} {place : Location} {path target temporary : Path}
  {content : Utf8.Bytes} {mishap : Option Mishap}

theorem length_temporarySuffix : temporarySuffix.length = 15 := by
  decide

/-- With the suffix a name is no `..`, so it leads to a place below. -/
theorem step_temporary (above : Location) (name : Text) :
    step above (name ++ temporarySuffix) = above ++ [name ++ temporarySuffix] := by
  refine if_neg fun h => ?_
  have hlength := congrArg List.length h
  have hdots : "..".toList.length = 2 := rfl
  rw [List.length_append, length_temporarySuffix, hdots] at hlength
  omega

theorem step_ne_step_temporary (above : Location) (name : Text) :
    step above name ≠ step above (name ++ temporarySuffix) := by
  rw [step_temporary, step]
  split
  · intro h
    have hlength := congrArg List.length h
    rw [List.length_dropLast, List.length_append, List.length_singleton] at hlength
    omega
  · intro h
    have hname : name = name ++ temporarySuffix :=
      (List.cons.inj (List.append_cancel_left h)).1
    have hlength := congrArg List.length hname
    rw [List.length_append, length_temporarySuffix] at hlength
    omega

theorem locate_eq_ok_iff :
    files.locate path = .ok place ↔
      exceeds longestPath path.toText = false ∧
        files.follow (if path.anchor = .here then files.current else []) path.parts =
          .ok place := by
  rw [locate]
  cases exceeds longestPath path.toText <;> simp

/-- **The sibling leads to a place of its own,** which is not the root. -/
theorem locate_sibling (hsibling : target.sibling? temporarySuffix = some temporary)
    (hplace : files.locate temporary = .ok place) :
    place ≠ [] ∧ files.locate target ≠ .ok place := by
  obtain ⟨front, name, hparts, rfl⟩ := Path.sibling?_eq_some_iff.1 hsibling
  obtain ⟨-, hfollow⟩ := locate_eq_ok_iff.1 hplace
  obtain ⟨above, habove, -, -, rfl⟩ := follow_append_singleton_eq_ok_iff.1 hfollow
  constructor
  · rw [step_temporary]
    exact List.append_ne_nil_of_right_ne_nil _ (List.cons_ne_nil _ _)
  · intro htarget
    obtain ⟨-, hfollow'⟩ := locate_eq_ok_iff.1 htarget
    rw [hparts] at hfollow'
    obtain ⟨above', habove', -, -, hstep⟩ := follow_append_singleton_eq_ok_iff.1 hfollow'
    have hsame : above' = above := Except.ok.inj (habove'.symm.trans habove)
    rw [hsame] at hstep
    exact step_ne_step_temporary above name hstep.symm

/-! ## The steps of an export -/

/-- The path leads to a place where a file can be put. -/
def CanHoldFile (files : FileSystem) (path : Path) : Prop :=
  ∃ place, files.locate path = .ok place ∧ files.node? place ≠ some .directory

theorem writeFile_eq_ok_iff :
    files.writeFile path content = .ok after ↔
      ∃ place, files.locate path = .ok place ∧ files.node? place ≠ some .directory ∧
        after = files.put place (.file content) := by
  rw [writeFile]
  cases hlocate : files.locate path with
  | error kind => simp
  | ok place =>
    simp only [Except.ok.injEq, exists_eq_left']
    split
    · next hnode => simp [hnode]
    · next hnode => simpa [eq_comm] using fun _ => hnode

theorem moveFile_eq_ok_iff :
    files.moveFile path target = .ok after ↔
      ∃ source destination content, files.locate path = .ok source ∧
        files.locate target = .ok destination ∧ target.name? ≠ some "..".toList ∧
        files.node? source = some (.file content) ∧ files.node? destination ≠ some .directory ∧
        after = (files.drop source).put destination (.file content) := by
  rw [moveFile]
  cases hsource : files.locate path with
  | error kind => simp
  | ok source =>
    cases hdestination : files.locate target with
    | error kind => simp
    | ok destination =>
      simp only [Except.ok.injEq, exists_and_left, exists_eq_left']
      by_cases hname : target.name? = some "..".toList
      · rw [if_pos hname]
        simp [hname]
      · simp only [ne_eq, hname, not_false_eq_true, true_and]
        cases hmoved : files.node? source with
        | none => simp
        | some node =>
          cases node with
          | directory => simp
          | file content =>
            cases hreplaced : files.node? destination with
            | none => simp [eq_comm]
            | some node => cases node <;> simp [eq_comm]

/-- Either nothing was written, or the file was put where it belongs, and then it is complete
unless a mishap struck. -/
theorem writeFileWith_cases (mishap : Option Mishap) (files : FileSystem) (path : Path)
    (content : Utf8.Bytes) :
    (∃ cause, files.writeFileWith mishap path content = (files, .error cause)) ∨
    ∃ place, files.locate path = .ok place ∧ files.node? place ≠ some .directory ∧
      ((∃ written cause, files.writeFileWith mishap path content =
          (files.put place (.file written), .error cause)) ∨
        (∀ written kind, mishap ≠ some (.whileWriting written kind)) ∧
          files.writeFileWith mishap path content =
            (files.put place (.file content), .ok ())) := by
  unfold writeFileWith
  split
  · next written kind =>
    split
    · next after hwrite =>
      obtain ⟨place, hplace, hnode, rfl⟩ := writeFile_eq_ok_iff.1 hwrite
      exact .inr ⟨place, hplace, hnode, .inl ⟨_, _, rfl⟩⟩
    · exact .inl ⟨_, rfl⟩
  · next hmishap =>
    split
    · next after hwrite =>
      obtain ⟨place, hplace, hnode, rfl⟩ := writeFile_eq_ok_iff.1 hwrite
      exact .inr ⟨place, hplace, hnode, .inr ⟨hmishap, rfl⟩⟩
    · exact .inl ⟨_, rfl⟩

theorem moveFileWith_eq_ok_iff :
    files.moveFileWith mishap path target = .ok after ↔
      (∀ kind, mishap ≠ some (.whileMoving kind)) ∧ files.moveFile path target = .ok after := by
  unfold moveFileWith
  split
  · next kind => simp
  · next hmishap => exact (and_iff_right hmishap).symm

theorem removeFile_eq_ok_iff :
    files.removeFile path = .ok after ↔
      ∃ place content, files.locate path = .ok place ∧
        files.node? place = some (.file content) ∧ after = files.drop place := by
  rw [removeFile]
  cases hlocate : files.locate path with
  | error kind => simp
  | ok place =>
    simp only [Except.ok.injEq, exists_and_left, exists_eq_left']
    cases files.node? place with
    | none => simp
    | some node => cases node <;> simp [eq_comm]

/-! ## What exporting leaves behind -/

/-- The target holds the text, nothing is left of the temporary file, and all else is as it
was. -/
structure Replaced (files after : FileSystem) (target temporary : Path) (text : Text) : Prop where
  atTarget : after.at? target = some (.file (Utf8.encode text))
  atTemporary : after.at? temporary = none
  elsewhere : ∀ path, ¬ files.SamePlace path target → ¬ files.SamePlace path temporary →
    after.at? path = files.at? path

/-- The target and all else is as it was, and there is no temporary file. -/
structure Kept (files after : FileSystem) (target temporary : Path) : Prop where
  atTarget : after.at? target = files.at? target
  atTemporary : ∀ content, after.at? temporary ≠ some (.file content)
  elsewhere : ∀ path, ¬ files.SamePlace path temporary → after.at? path = files.at? path

/-- A change of nothing but the sibling keeps the target. -/
theorem Kept.of_framedBy (hsibling : target.sibling? temporarySuffix = some temporary)
    (h : FramedBy (files.locate temporary = .ok ·) files after)
    (htemporary : ∀ content, after.at? temporary ≠ some (.file content)) :
    Kept files after target temporary where
  atTarget := h.at?_eq fun _ hplace => (locate_sibling hsibling hplace).2
  atTemporary := htemporary
  elsewhere _ hpath := h.at?_eq fun place hplace hpath' => hpath ⟨place, hpath', hplace⟩

/-- Giving up removes a file at the sibling and changes nothing else. -/
theorem giveUp_spec (hsibling : target.sibling? temporarySuffix = some temporary)
    (hpassable : temporary.isPassable = true) (files : FileSystem) (cause : FileError) :
    ∃ after error, files.giveUp temporary target cause = (after, .error error) ∧
      FramedBy (files.locate temporary = .ok ·) files after ∧
      ∀ content, after.at? temporary ≠ some (.file content) := by
  by_cases hfile : ∃ content, files.at? temporary = some (.file content)
  · obtain ⟨content, hcontent⟩ := hfile
    obtain ⟨-, place, hplace, hnode⟩ := at?_eq_some_iff.1 hcontent
    have hroot := (locate_sibling hsibling hplace).1
    have hremoved : files.removeFile temporary = .ok (files.drop place) :=
      removeFile_eq_ok_iff.2 ⟨place, content, hplace, hnode, rfl⟩
    have hframe : FramedBy (files.locate temporary = .ok ·) files (files.drop place) :=
      FramedBy.drop_file hplace (by simp [hnode]) hroot
    refine ⟨files.drop place, .failed target cause, ?_, hframe, fun content => ?_⟩
    · simp [giveUp, holds, hplace, hnode, hremoved]
    · rw [at?_eq_node? hpassable (hframe.locate_eq_ok_iff.2 hplace), node?_drop_self files hroot]
      exact fun h => nomatch h
  · have hunchanged : ∃ error, files.giveUp temporary target cause = (files, .error error) := by
      unfold giveUp
      split
      · exact ⟨_, rfl⟩
      · exact ⟨_, rfl⟩
      · split
        · next after hremoved =>
          obtain ⟨place, content, hplace, hnode, -⟩ := removeFile_eq_ok_iff.1 hremoved
          exact absurd ⟨content, at?_eq_some_iff.2 ⟨hpassable, place, hplace, hnode⟩⟩ hfile
        · exact ⟨_, rfl⟩
    obtain ⟨error, hgiveUp⟩ := hunchanged
    exact ⟨files, error, hgiveUp, FramedBy.refl _ files, fun content h => hfile ⟨content, h⟩⟩

/-- **A failed export keeps the target,** whatever it has done to the sibling. -/
theorem kept_giveUp (hsibling : target.sibling? temporarySuffix = some temporary)
    (hpassable : temporary.isPassable = true)
    (h : FramedBy (files.locate temporary = .ok ·) files after) (cause : FileError) :
    ∃ later error, after.giveUp temporary target cause = (later, .error error) ∧
      Kept files later target temporary := by
  obtain ⟨later, error, hgiveUp, hframe, htemporary⟩ := giveUp_spec hsibling hpassable after cause
  refine ⟨later, error, hgiveUp, Kept.of_framedBy hsibling (h.trans ?_) htemporary⟩
  exact hframe.mono fun place hplace => h.locate_eq_ok_iff.1 hplace

/-- **A completed move has replaced the target.** -/
theorem replaced_of_moveFile (hsibling : target.sibling? temporarySuffix = some temporary)
    (hpassable : temporary.isPassable = true) (hplace : files.locate temporary = .ok place)
    (hnode : files.node? place ≠ some .directory) {text : Text}
    (hmoved : (files.put place (.file (Utf8.encode text))).moveFile temporary target = .ok after) :
    Replaced files after target temporary text := by
  obtain ⟨hroot, hother⟩ := locate_sibling hsibling hplace
  have hwritten : FramedBy (files.locate temporary = .ok ·) files
      (files.put place (.file (Utf8.encode text))) := FramedBy.put_file hplace hnode _
  obtain ⟨source, destination, content, hsource, hdestination, -, hcontent, hreplaced, rfl⟩ :=
    moveFile_eq_ok_iff.1 hmoved
  -- What is moved is what has just been written.
  obtain rfl : place = source :=
    Except.ok.inj (hplace.symm.trans (hwritten.locate_eq_ok_iff.1 hsource))
  rw [node?_put_self] at hcontent
  obtain rfl : Utf8.encode text = content := by cases hcontent; rfl
  have htarget := hwritten.locate_eq_ok_iff.1 hdestination
  have hne : destination ≠ place := fun h => hother (h ▸ htarget)
  have hdropped := hwritten.trans <| FramedBy.drop_file hplace
    (by rw [node?_put_self]; exact fun h => nomatch h) hroot
  have hframe : FramedBy
      (fun l => files.locate target = .ok l ∨ files.locate temporary = .ok l) files
      (((files.put place (.file (Utf8.encode text))).drop place).put destination
        (.file (Utf8.encode text))) := by
    refine (hdropped.mono fun _ => Or.inr).trans (FramedBy.put_file (.inl htarget) ?_ _)
    rwa [node?_drop_of_ne _ hne]
  have hpassable' : target.isPassable = true :=
    (Path.isPassable_sibling hsibling (by decide)).symm.trans hpassable
  refine ⟨?_, ?_, fun path hpath hpath' => hframe.at?_eq fun l hl hlocate => ?_⟩
  · rw [at?_eq_node? hpassable' (hframe.locate_eq_ok_iff.2 htarget), node?_put_self]
  · rw [at?_eq_node? hpassable (hframe.locate_eq_ok_iff.2 hplace), node?_put_of_ne _ _ hne.symm,
      node?_drop_self _ hroot]
  · rcases hl with hl | hl
    · exact hpath ⟨l, hlocate, hl⟩
    · exact hpath' ⟨l, hlocate, hl⟩

/-! ## Targets that can be replaced -/

/-- Nothing stands against putting a file at the target by way of the sibling. -/
structure Replaceable (files : FileSystem) (target temporary : Path) : Prop where
  isPassable : temporary.isPassable = true
  canWrite : files.CanHoldFile temporary
  canMove : files.CanHoldFile target
  isNamed : target.name? ≠ some "..".toList

/-- A replaceable target is replaced if no mishap strikes. -/
theorem exists_replaceFile_eq_ok (hsibling : target.sibling? temporarySuffix = some temporary)
    (h : files.Replaceable target temporary) (text : Text) :
    ∃ after, files.replaceFile none target text = (after, .ok ()) ∧
      Replaced files after target temporary text := by
  obtain ⟨hpassable, ⟨place, hplace, hnode⟩, ⟨destination, hdestination, hreplaced⟩, hname⟩ := h
  have hwrite : files.writeFileWith none temporary (Utf8.encode text) =
      (files.put place (.file (Utf8.encode text)), .ok ()) := by
    simp [writeFileWith, writeFile_eq_ok_iff.2 ⟨place, hplace, hnode, rfl⟩]
  have hframe : FramedBy (files.locate temporary = .ok ·) files
      (files.put place (.file (Utf8.encode text))) := FramedBy.put_file hplace hnode _
  obtain ⟨after, hmoved⟩ : ∃ after,
      (files.put place (.file (Utf8.encode text))).moveFile temporary target = .ok after := by
    refine ⟨_, moveFile_eq_ok_iff.2 ⟨place, destination, _, hframe.locate_eq_ok_iff.2 hplace,
      hframe.locate_eq_ok_iff.2 hdestination, hname, node?_put_self _ _ _, ?_, rfl⟩⟩
    rwa [Ne, hframe.directories]
  refine ⟨after, ?_, replaced_of_moveFile hsibling hpassable hplace hnode hmoved⟩
  simp [replaceFile, hsibling, hpassable, hwrite, moveFileWith, hmoved]

theorem mishap_eq_none (hwriting : ∀ written kind, mishap ≠ some (.whileWriting written kind))
    (hmoving : ∀ kind, mishap ≠ some (.whileMoving kind)) : mishap = none := by
  rcases mishap with _ | ⟨written, kind⟩ | kind
  · rfl
  · exact absurd rfl (hwriting written kind)
  · exact absurd rfl (hmoving kind)

/-- A target that is not replaceable is kept, and any target is if a mishap strikes. -/
theorem exists_replaceFile_eq_error (hsibling : target.sibling? temporarySuffix = some temporary)
    (h : ¬ (mishap = none ∧ files.Replaceable target temporary)) (text : Text) :
    ∃ after cause, files.replaceFile mishap target text = (after, .error cause) ∧
      Kept files after target temporary := by
  cases hpassable : temporary.isPassable with
  | false =>
    refine ⟨files, .impassable, ?_, Kept.of_framedBy hsibling (FramedBy.refl _ files) fun _ => ?_⟩
    · simp [replaceFile, hsibling, hpassable]
    · simp [at?, hpassable]
  | true =>
    -- All failures from here on end with giving up, after a change of the sibling alone.
    suffices hgaveUp : ∃ after cause, FramedBy (files.locate temporary = .ok ·) files after ∧
        files.replaceFile mishap target text = after.giveUp temporary target cause by
      obtain ⟨after, cause, hframe, hgiveUp⟩ := hgaveUp
      rw [hgiveUp]
      exact kept_giveUp hsibling hpassable hframe cause
    rcases files.writeFileWith_cases mishap temporary (Utf8.encode text) with
      ⟨cause, hwrite⟩ | ⟨place, hplace, hnode, ⟨written, cause, hwrite⟩ | ⟨hwriting, hwrite⟩⟩
    · refine ⟨files, cause, FramedBy.refl _ files, ?_⟩
      simp [replaceFile, hsibling, hpassable, hwrite]
    · refine ⟨_, cause, FramedBy.put_file hplace hnode written, ?_⟩
      simp [replaceFile, hsibling, hpassable, hwrite]
    · have hframe : FramedBy (files.locate temporary = .ok ·) files
          (files.put place (.file (Utf8.encode text))) := FramedBy.put_file hplace hnode _
      cases hmoved : (files.put place (.file (Utf8.encode text))).moveFileWith mishap temporary
          target with
      | error cause =>
        refine ⟨_, cause, hframe, ?_⟩
        simp [replaceFile, hsibling, hpassable, hwrite, hmoved]
      | ok moved =>
        -- Both steps have been made, so nothing stood against them.
        obtain ⟨hmoving, hmove⟩ := moveFileWith_eq_ok_iff.1 hmoved
        obtain ⟨-, destination, -, -, hdestination, hname, -, hreplaced, -⟩ :=
          moveFile_eq_ok_iff.1 hmove
        refine absurd ⟨mishap_eq_none hwriting hmoving, hpassable, ⟨place, hplace, hnode⟩,
          ⟨destination, hframe.locate_eq_ok_iff.1 hdestination, ?_⟩, hname⟩ h
        rwa [Ne, hframe.directories] at hreplaced

/-! ## Records without a text -/

/-- Giving up blames the system, and never the records. -/
theorem giveUp_ne_unwritten (files : FileSystem) (temporary target : Path) (cause : FileError)
    (fault : Fault) : (files.giveUp temporary target cause).2 ≠ .error (.unwritten fault) := by
  unfold giveUp
  split
  · simp
  · simp
  · split
    · simp
    · simp

/-- A text that is at hand can fail to be put at the target, but has been written. -/
theorem replaceFile_ne_unwritten (mishap : Option Mishap) (files : FileSystem) (target : Path)
    (text : Text) (fault : Fault) :
    (files.replaceFile mishap target text).2 ≠ .error (.unwritten fault) := by
  unfold replaceFile
  split
  · simp
  · next temporary _ =>
    split
    · simp
    · split
      · next after cause _ => exact giveUp_ne_unwritten after temporary target cause fault
      · next after _ =>
        split
        · simp
        · next cause _ => exact giveUp_ne_unwritten after temporary target cause fault

/-- Records have no text exactly if a number in them is too large to be written, and this is the
one case in which an export blames the records. Records that have been read are not like that
(`document_of_readModel`). -/
theorem exportRecords_eq_unwritten_iff (mishap : Option Mishap) (files : FileSystem)
    (entities : List Entity) (target : Path) :
    (∃ fault, (files.exportRecords mishap entities target).2 = .error (.unwritten fault)) ↔
      ∃ entity ∈ entities, entity.isWritable = false := by
  rw [exportRecords, Yaml.document]
  by_cases hall : entities.all Entity.isWritable = true
  · rw [if_pos hall]
    refine iff_of_false ?_ ?_
    · rintro ⟨fault, hfault⟩
      exact replaceFile_ne_unwritten mishap files target (Yaml.snapshot entities) fault hfault
    · rintro ⟨entity, hmem, hwritable⟩
      rw [List.all_eq_true.1 hall entity hmem] at hwritable
      cases hwritable
  · rw [if_neg hall]
    refine iff_of_true ⟨_, rfl⟩ ?_
    simpa using hall

/-- An export that blames the records has not come to its first step. Every path holds what it
held before: the target, and also the sibling, where a file that was left by an earlier run is not
removed. -/
theorem at?_exportRecords_of_unwritten {mishap : Option Mishap} {files : FileSystem}
    {entities : List Entity} {target : Path} {fault : Fault}
    (h : (files.exportRecords mishap entities target).2 = .error (.unwritten fault))
    (path : Path) : (files.exportRecords mishap entities target).1.at? path = files.at? path := by
  rw [exportRecords] at h ⊢
  cases hdocument : Yaml.document entities with
  | error cause => rfl
  | ok text =>
    rw [hdocument] at h
    exact absurd h (replaceFile_ne_unwritten mishap files target text fault)

/-! ## All or nothing -/

end FileSystem

end Famix
