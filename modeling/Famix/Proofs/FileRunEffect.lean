/-
What a run on a file shows, returns and writes.

The three things depend on each other. A step that fails ends the run with code 1 and leaves out
what would come behind it; an export that succeeds has been made for good when strict mode then
finds something left over; and whether something is left over is asked twice, for the display
and for the code. `Course` says for each way through the run what all three come to, and
`run_course` that a run takes one of the ways, as long as nothing but its own steps can keep it
from its end: the paths can be written into messages and handed to the system, the target has a
name, and the numerals of the file can be read.

The two exit codes are then told apart by the request and the file system alone
(`Course.ending`).
-/
import Famix.Proofs.FileRunEnding

set_option autoImplicit false

namespace Famix

/-! ## What is left over -/

/-- Something but blanks is left. -/
def LeavesOver (remainder : Text) : Prop := ∃ c ∈ remainder, Text.isBlank c = false

instance (remainder : Text) : Decidable (LeavesOver remainder) :=
  inferInstanceAs (Decidable (∃ c ∈ remainder, Text.isBlank c = false))

theorem allBlank_eq (remainder : Text) :
    Text.allBlank remainder = !decide (LeavesOver remainder) := by
  unfold Text.allBlank
  by_cases hleft : LeavesOver remainder
  · obtain ⟨c, hc, hblank⟩ := hleft
    rw [decide_eq_true ⟨c, hc, hblank⟩]
    exact List.all_eq_false.mpr ⟨c, hc, by rw [hblank]; exact Bool.false_ne_true⟩
  · rw [decide_eq_false hleft, Bool.not_false, List.all_eq_true]
    intro c hc
    by_contra hblank
    exact hleft ⟨c, hc, (Bool.not_eq_true _).mp hblank⟩

namespace CommandLine

namespace FileRequest

variable {request : FileRequest} {files : FileSystem}

/-- In strict mode something but blanks is left of a text that matches. -/
def Objects (request : FileRequest) (files : FileSystem) : Prop :=
  request.strict = true ∧ ∃ text items remainder,
    files.readText (Path.ofText request.path) = .ok text ∧
      readModel text = .ok ⟨items, true, remainder⟩ ∧ LeavesOver remainder

/-! ## The ways through a run -/

/-- What the last steps of a run come to, from the export on. -/
inductive LastSteps (request : FileRequest) (files : FileSystem) (items : List Entity)
    (remainder : Text) (run : FileRun) : Prop
  | unwanted (hwanted : request.exportTo = [])
    (hshown : run.shown =
      if request.strict = true ∧ LeavesOver remainder then strictNotice else [])
    (hending : run.ending = .exit (if request.strict = true ∧ LeavesOver remainder then 1 else 0))
    (hfiles : run.files = files)
  | exported {temporary : Path} {plain : Text} (hwanted : request.exportTo ≠ [])
    (hsibling : (Path.ofText request.exportTo).sibling? temporarySuffix = some temporary)
    (hexport : (files.exportRecords none items (Path.ofText request.exportTo)).2 = .ok ())
    (hplain : Markup.plain (exportedMessage items.length (Path.ofText request.exportTo)) =
      .ok plain)
    (hshown : run.shown = Display.print plain ++
      if request.strict = true ∧ LeavesOver remainder then strictNotice else [])
    (hending : run.ending = .exit (if request.strict = true ∧ LeavesOver remainder then 1 else 0))
    (hfiles : FileSystem.Replaced files run.files (Path.ofText request.exportTo) temporary
      (Yaml.snapshot items))
  | unexported {temporary : Path} {cause : ExportError} {plain : Text}
    (hwanted : request.exportTo ≠ [])
    (hsibling : (Path.ofText request.exportTo).sibling? temporarySuffix = some temporary)
    (hexport : (files.exportRecords none items (Path.ofText request.exportTo)).2 = .error cause)
    (hplain : Markup.plain (notExportedMessage cause) = .ok plain)
    (hshown : run.shown = Display.print plain) (hending : run.ending = .exit 1)
    (hfiles : FileSystem.Kept files run.files (Path.ofText request.exportTo) temporary)

/-- What a run on a file comes to. The file cannot be read, or its text does not match, and then
an error message is all; or the records are shown, what is left over if that is more than
blanks, and the chart if it is wanted, and the last steps follow. -/
inductive Course (request : FileRequest) (files : FileSystem) (run : FileRun) : Prop
  | unread {cause : ReadError} {plain : Text}
    (hread : files.readText (Path.ofText request.path) = .error cause)
    (hplain : Markup.plain (request.unreadableMessage cause) = .ok plain)
    (hshown : run.shown = Display.print plain) (hending : run.ending = .exit 1)
    (hfiles : run.files = files)
  | unmatched {text plain : Text} {reading : Reading Entity}
    (hread : files.readText (Path.ofText request.path) = .ok text)
    (hmodel : readModel text = .ok reading) (hmatched : reading.matched = false)
    (hplain : Markup.plain request.noListMessage = .ok plain)
    (hshown : run.shown = Display.fittedPanel none plain) (hending : run.ending = .exit 1)
    (hfiles : run.files = files)
  | matched {text remainder : Text} {items : List Entity} {last : FileRun}
    (hread : files.readText (Path.ofText request.path) = .ok text)
    (hmodel : readModel text = .ok ⟨items, true, remainder⟩)
    (hlast : request.LastSteps files items remainder last)
    (hshown : run.shown = Display.recordTable items ++
      (if LeavesOver remainder then Display.rest remainder else []) ++
      (if request.chart then Display.chart items else []) ++ last.shown)
    (hending : run.ending = last.ending) (hfiles : run.files = last.files)

/-! ## The last steps -/

/-- Nothing but its own steps can keep a run from its end: the paths can be handed to the system
and written into messages, the target has a name, and the file has no numeral that is too
long. -/
structure Unhindered (request : FileRequest) (files : FileSystem) : Prop where
  bracket : '[' ∉ request.path ∧ '[' ∉ request.exportTo
  null : '\x00' ∉ request.path ∧ '\x00' ∉ request.exportTo
  name : request.exportTo ≠ [] → (Path.ofText request.exportTo).name? ≠ none
  digits : ∀ text, files.readText (Path.ofText request.path) = .ok text → Grammar.DigitRunsFit text

/-- A message that can be printed stands before whatever comes next. -/
theorem say_of_plain {message plain : Text} (h : Markup.plain message = .ok plain)
    (after : FileSystem) (print : Text → Text) (next : FileRun) :
    FileRun.say after message print next = next.after (print plain) [] := by
  unfold FileRun.say
  rw [h]

section

variable {text remainder : Text} {items : List Entity}

/-- The last step objects in strict mode to what is left over, and to nothing else. -/
theorem conclude_eq (after : FileSystem) :
    request.conclude ⟨items, true, remainder⟩ after =
      { shown := if request.strict = true ∧ LeavesOver remainder then strictNotice else []
        ending := .exit (if request.strict = true ∧ LeavesOver remainder then 1 else 0)
        files := after } := by
  unfold conclude Reading.complete
  rw [Bool.true_and, allBlank_eq, Bool.not_not]
  by_cases hobjects : request.strict = true ∧ LeavesOver remainder
  · rw [if_pos hobjects, if_pos hobjects, hobjects.1, decide_eq_true hobjects.2]
    rfl
  · have hfalse : (request.strict && decide (LeavesOver remainder)) = false := by
      simpa using hobjects
    rw [if_neg hobjects, if_neg hobjects, hfalse]
    rfl

/-- The snapshot of what has been read replaces the target, or the target is kept. -/
theorem exportRecords_cases (files : FileSystem)
    (hmodel : readModel text = .ok ⟨items, true, remainder⟩)
    {target temporary : Path} (hsibling : target.sibling? temporarySuffix = some temporary) :
    (∃ after, files.exportRecords none items target = (after, .ok ()) ∧
      FileSystem.Replaced files after target temporary (Yaml.snapshot items)) ∨
    ∃ after cause, files.exportRecords none items target = (after, .error cause) ∧
      FileSystem.Kept files after target temporary := by
  have hexport : files.exportRecords none items target =
      files.replaceFile none target (Yaml.snapshot items) := by
    unfold FileSystem.exportRecords
    rw [document_of_readModel hmodel]
  rw [hexport]
  by_cases h : files.Replaceable target temporary
  · exact .inl (FileSystem.exists_replaceFile_eq_ok hsibling h _)
  · exact .inr (FileSystem.exists_replaceFile_eq_error hsibling (fun hboth => h hboth.2) _)

/-- The last steps of a run that exports. -/
theorem lastSteps_writeSnapshot (h : request.Unhindered files)
    (hmodel : readModel text = .ok ⟨items, true, remainder⟩)
    (hwanted : request.exportTo ≠ []) :
    request.LastSteps files items remainder
      (request.writeSnapshot ⟨items, true, remainder⟩ files) := by
  obtain ⟨temporary, hsibling⟩ :
      ∃ temporary, (Path.ofText request.exportTo).sibling? temporarySuffix = some temporary := by
    obtain ⟨name, hname⟩ := Option.ne_none_iff_exists'.mp (h.name hwanted)
    exact ⟨_, by rw [Path.sibling?, hname, Option.map_some]⟩
  rcases exportRecords_cases files hmodel hsibling with
    ⟨after, hexport, hreplaced⟩ | ⟨after, cause, hexport, hkept⟩
  · obtain ⟨plain, hplain⟩ :=
      exists_plain_exportedMessage (Path.bracketless_ofText h.bracket.2) items.length
    have hrun : request.writeSnapshot ⟨items, true, remainder⟩ files =
        (FileRun.say after (exportedMessage items.length (Path.ofText request.exportTo))
          Display.print (request.conclude ⟨items, true, remainder⟩ after)).after []
          [exportedLog (Path.ofText request.exportTo)] := by
      simp only [writeSnapshot, hexport]
    rw [say_of_plain hplain, conclude_eq] at hrun
    refine .exported hwanted hsibling ?_ hplain ?_ ?_ ?_
    · rw [hexport]
    · rw [hrun]
      rfl
    · rw [hrun]
      rfl
    · rw [hrun]
      exact hreplaced
  · have herror : (files.exportRecords none items (Path.ofText request.exportTo)).2 =
        .error cause := by
      rw [hexport]
    -- the paths leave only those failures that end with a message
    have hfailure : FileSystem.IsExportFailure (Path.ofText request.exportTo) temporary cause := by
      rcases FileSystem.exportRecords_error_cases herror with
        ⟨other, hdocument, -⟩ | ⟨hnone, -⟩ | ⟨sibling, hsibling', ⟨hpassable, -⟩ | hfailure⟩
      · rw [document_of_readModel hmodel] at hdocument
        cases hdocument
      · exact absurd hnone (h.name hwanted)
      · rw [Path.isPassable_sibling hsibling' (by decide), Path.isPassable_ofText h.null.2]
          at hpassable
        cases hpassable
      · rw [hsibling] at hsibling'
        rwa [Option.some.inj hsibling']
    obtain ⟨plain, hplain⟩ :=
      exists_plain_notExportedMessage hfailure hsibling (Path.bracketless_ofText h.bracket.2)
    have hrun : request.writeSnapshot ⟨items, true, remainder⟩ files =
        FileRun.say after (notExportedMessage cause) Display.print (FileRun.done after 1) := by
      obtain ⟨reason, rfl | rfl, -⟩ := hfailure
      · simp only [writeSnapshot, hexport]
      · simp only [writeSnapshot, hexport]
    rw [say_of_plain hplain] at hrun
    refine .unexported hwanted hsibling herror hplain ?_ ?_ ?_
    · rw [hrun]
      exact List.append_nil _
    · rw [hrun]
      rfl
    · rw [hrun]
      exact hkept

/-- The last steps of any run. -/
theorem lastSteps (h : request.Unhindered files)
    (hmodel : readModel text = .ok ⟨items, true, remainder⟩) :
    request.LastSteps files items remainder
      (if request.exportTo.isEmpty then request.conclude ⟨items, true, remainder⟩ files
        else request.writeSnapshot ⟨items, true, remainder⟩ files) := by
  by_cases hwanted : request.exportTo = []
  · rw [if_pos (List.isEmpty_iff.mpr hwanted), conclude_eq]
    exact .unwanted hwanted rfl rfl rfl
  · rw [if_neg fun hempty => hwanted (List.isEmpty_iff.mp hempty)]
    exact lastSteps_writeSnapshot h hmodel hwanted

end

/-! ## Whole runs -/

theorem course_runOnText (h : request.Unhindered files) {text : Text}
    (hread : files.readText (Path.ofText request.path) = .ok text) :
    request.Course files (request.runOnText files text) := by
  obtain ⟨⟨items, matched, remainder⟩, hmodel⟩ := exists_readModel_eq_ok (h.digits text hread)
  cases matched with
  | false =>
    obtain ⟨plain, hplain⟩ := exists_plain_noListMessage h.bracket.1
    have hrun : request.runOnText files text =
        (FileRun.say files request.noListMessage (Display.fittedPanel none)
          (FileRun.done files 1)).after [] [LogLine.ofReading text ⟨items, false, remainder⟩] := by
      unfold runOnText
      rw [hmodel]
      rfl
    rw [say_of_plain hplain] at hrun
    refine .unmatched hread hmodel rfl hplain ?_ ?_ ?_
    · rw [hrun]
      exact List.append_nil _
    · rw [hrun]
      rfl
    · rw [hrun]
      rfl
  | true =>
    have hreport : request.report ⟨items, true, remainder⟩ = Display.recordTable items ++
        (if LeavesOver remainder then Display.rest remainder else []) ++
        (if request.chart then Display.chart items else []) := by
      unfold report
      by_cases hleft : LeavesOver remainder
      · rw [if_pos hleft, allBlank_eq, decide_eq_true hleft]
        rfl
      · rw [if_neg hleft, allBlank_eq, decide_eq_false hleft]
        rfl
    have hrun : request.runOnText files text =
        (if request.exportTo.isEmpty then request.conclude ⟨items, true, remainder⟩ files
          else request.writeSnapshot ⟨items, true, remainder⟩ files).after
          (request.report ⟨items, true, remainder⟩)
          [LogLine.ofReading text ⟨items, true, remainder⟩] := by
      unfold runOnText
      rw [hmodel]
      rfl
    refine .matched hread hmodel (lastSteps h hmodel) ?_ ?_ ?_
    · rw [hrun, hreport]
      rfl
    · rw [hrun]
      rfl
    · rw [hrun]
      rfl

theorem objects_iff {text remainder : Text} {items : List Entity}
    (hread : files.readText (Path.ofText request.path) = .ok text)
    (hmodel : readModel text = .ok ⟨items, true, remainder⟩) :
    request.Objects files ↔ request.strict = true ∧ LeavesOver remainder := by
  constructor
  · rintro ⟨hstrict, text', items', remainder', hread', hmodel', hleft⟩
    obtain rfl := Except.ok.inj (hread.symm.trans hread')
    cases hmodel.symm.trans hmodel'
    exact ⟨hstrict, hleft⟩
  · rintro ⟨hstrict, hleft⟩
    exact ⟨hstrict, text, items, remainder, hread, hmodel, hleft⟩

open Classical in
/-- A course ends with code 1 if a step fails or strict mode objects, and with code 0 otherwise. -/
theorem Course.ending_eq {run : FileRun} (h : request.Course files run) :
    run.ending = .exit (if request.Fails files ∨ request.Objects files then 1 else 0) := by
  cases h with
  | unread hread hplain hshown hending hfiles =>
    rw [hending, if_pos (.inl (.reading hread))]
  | unmatched hread hmodel hmatched hplain hshown hending hfiles =>
    rw [hending, if_pos (.inl (.matching hread hmodel hmatched))]
  | @matched text remainder items last hread hmodel hlast hshown hending hfiles =>
    rw [hending]
    -- where no step fails, the code is left to strict mode
    have hdecided : ¬ request.Fails files →
        (request.strict = true ∧ LeavesOver remainder ↔
          request.Fails files ∨ request.Objects files) :=
      fun hnone => (objects_iff hread hmodel).symm.trans (or_iff_right hnone).symm
    cases hlast with
    | unwanted hwanted hshown hending hfiles =>
      have hnone : ¬ request.Fails files := by
        intro hfails
        obtain ⟨hempty, -⟩ := hfails.exists_error hread hmodel rfl
        rw [hwanted] at hempty
        cases hempty
      rw [hending, if_congr (hdecided hnone) rfl rfl]
    | exported hwanted hsibling hexport hplain hshown hending hfiles =>
      have hnone : ¬ request.Fails files := by
        intro hfails
        obtain ⟨-, cause, herror⟩ := hfails.exists_error hread hmodel rfl
        rw [hexport] at herror
        cases herror
      rw [hending, if_congr (hdecided hnone) rfl rfl]
    | unexported hwanted hsibling hexport hplain hshown hending hfiles =>
      have hempty : request.exportTo.isEmpty = false := by
        rwa [Bool.eq_false_iff, Ne, List.isEmpty_iff]
      rw [hending, if_pos (.inl (.exporting hread hmodel hempty hexport))]

end FileRequest

end CommandLine

end Famix
