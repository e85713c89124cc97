/-
How a run on a file ends.

A run ends with code 0 or 1, and with 1 if the file cannot be read, does not match or its
snapshot cannot be written (`run_exits_or_blames`). Four things keep it from ending so: a path
that the system cannot be asked for, a numeral in the file that is too long to be read, a target
without a name, and a bracket in a path that its message takes for a mark. Then the run is left
by what it does not handle, and `Blames` says for which of the four.

Without a bracket in the paths every message can be printed. What the messages are put together
from is told in `ErrorMessages`.
-/
import Famix.CommandLine.FileRun
import Famix.Proofs.ErrorMessages
import Famix.Proofs.Totality
import Famix.Proofs.Writable

set_option autoImplicit false

namespace Famix.CommandLine

open Markup

/-! ## Messages that can be printed -/

/-- An error message can be printed if its words hold no mark. -/
theorem exists_plain_of_error {words : Text} (hwords : marksIn words = []) :
    ∃ plain, Markup.plain ("[bold red]Error:[/bold red] ".toList ++ words) = .ok plain := by
  have hmessage : "[bold red]Error:[/bold red] ".toList ++ words =
      '[' :: "bold red".toList ++ ']' ::
        ("Error:".toList ++ ('[' :: '/' :: "bold red".toList ++ ']' :: (" ".toList ++ words))) := by
    simp
  rw [hmessage]
  refine isPlainStyle_bold_red.exists_plain_of_enclosed (by decide) ?_
  rw [marksIn_append (by decide), hwords]

namespace FileRequest

variable {request : FileRequest} {files : FileSystem}

/-- The message about a file that cannot be read can be printed. -/
theorem exists_plain_unreadableMessage (hpath : '[' ∉ request.path) {cause : ReadError}
    (h : files.readText (Path.ofText request.path) = .error cause) :
    ∃ plain, Markup.plain (request.unreadableMessage cause) = .ok plain := by
  have hcause : marksIn cause.message = [] := by
    -- the path is shown as it was given, and the cause may quote it a second time
    cases cause with
    | file error =>
      refine error.marksIn_message fun path hmem => ?_
      rw [FileSystem.readText_error_paths h, List.mem_singleton] at hmem
      exact hmem ▸ Path.bracketless_ofText hpath
    | decoding error => exact error.marksIn_message
    | impassable =>
      have hwords : '[' ∉ "embedded null byte".toList := by decide
      exact marksIn_eq_nil hwords
  have hlead : '[' ∉ "Cannot read '".toList ++ request.path ++ "': ".toList := by
    simp [hpath]
  have hmessage : request.unreadableMessage cause = "[bold red]Error:[/bold red] ".toList ++
      ("Cannot read '".toList ++ request.path ++ "': ".toList ++ cause.message) := by
    unfold unreadableMessage
    simp
  rw [hmessage]
  exact exists_plain_of_error ((marksIn_append hlead cause.message).trans hcause)

/-- The message about a file without a list can be printed. -/
theorem exists_plain_noListMessage (hpath : '[' ∉ request.path) :
    ∃ plain, Markup.plain request.noListMessage = .ok plain := by
  have hmessage : request.noListMessage =
      '[' :: "bold red".toList ++ ']' :: ("No FAMIX list found in ".toList ++ request.path ++
        ('[' :: '/' :: "bold red".toList ++ ']' ::
          "\nThe input may be incomplete or malformed.".toList)) := by
    unfold noListMessage
    simp
  rw [hmessage]
  refine isPlainStyle_bold_red.exists_plain_of_enclosed ?_ (marksIn_eq_nil (by decide))
  simp [hpath]

/-- The message about an export can be printed. -/
theorem exists_plain_exportedMessage {target : Path} (htarget : target.Bracketless) (count : Nat) :
    ∃ plain, Markup.plain (exportedMessage count target) = .ok plain := by
  have hmessage : exportedMessage count target =
      '[' :: "bold green".toList ++ ']' :: ("Exported ".toList ++ Text.ofNat count ++
        " entities to ".toList ++ target.toText ++
          ('[' :: '/' :: "bold green".toList ++ ']' :: [])) := by
    unfold exportedMessage
    simp
  rw [hmessage]
  refine isPlainStyle_bold_green.exists_plain_of_enclosed ?_ rfl
  simp [Text.bracket_not_mem_ofNat, htarget.not_mem_toText]

/-- The message about an export that failed can be printed. -/
theorem exists_plain_notExportedMessage {target temporary : Path} {cause : ExportError}
    (h : FileSystem.IsExportFailure target temporary cause)
    (hsibling : target.sibling? temporarySuffix = some temporary) (htarget : target.Bracketless) :
    ∃ plain, Markup.plain (notExportedMessage cause) = .ok plain :=
  exists_plain_of_error (h.marksIn_message hsibling htarget)

/-! ## Steps that fail -/

/-- Reading the file, matching its text or writing the snapshot fails. -/
inductive Fails (request : FileRequest) (files : FileSystem) : Prop
  | reading {cause : ReadError}
    (hread : files.readText (Path.ofText request.path) = .error cause)
  | numeral {text : Text} {cause : Fault}
    (hread : files.readText (Path.ofText request.path) = .ok text)
    (hmodel : readModel text = .error cause)
  | matching {text : Text} {reading : Reading Entity}
    (hread : files.readText (Path.ofText request.path) = .ok text)
    (hmodel : readModel text = .ok reading) (hmatched : reading.matched = false)
  | exporting {text : Text} {reading : Reading Entity} {cause : ExportError}
    (hread : files.readText (Path.ofText request.path) = .ok text)
    (hmodel : readModel text = .ok reading) (hwanted : request.exportTo.isEmpty = false)
    (hexport : (files.exportRecords none reading.items (Path.ofText request.exportTo)).2 =
      .error cause)

/-- What may leave a run, and what is to blame for it. -/
inductive Blames (request : FileRequest) (files : FileSystem) : Escape → Prop
  | impassable (h : '\x00' ∈ request.path ∨ '\x00' ∈ request.exportTo) :
    Blames request files .impassable
  | numeral {text : Text} {place : Nat} {cause : Fault}
    (hread : files.readText (Path.ofText request.path) = .ok text)
    (hlong : Parser.IsLongNumeral text place cause) : Blames request files (.fault cause)
  | unnamed (hwanted : request.exportTo.isEmpty = false)
    (hname : (Path.ofText request.exportTo).name? = none) :
    Blames request files (.unwritable (.emptyName (Path.ofText request.exportTo)))
  | bracket {cause : MarkupError} (h : '[' ∈ request.path ∨ '[' ∈ request.exportTo) :
    Blames request files (.markup cause)

/-- How a run on a file may end: with code 0 or 1, and with 1 if a step fails, or with what the
paths or the file are to blame for. -/
def Accounts (request : FileRequest) (files : FileSystem) : Ending → Prop
  | .exit code => (code = 0 ∨ code = 1) ∧ (request.Fails files → code = 1)
  | .escape cause => request.Blames files cause

/-! ## Endings -/

@[simp] theorem ending_after (shown : Text) (log : List LogLine) (run : FileRun) :
    (FileRun.after shown log run).ending = run.ending := rfl

/-- Code 1 accounts for everything. -/
theorem accounts_exit_one : request.Accounts files (.exit 1) := ⟨.inr rfl, fun _ => rfl⟩

/-- After a message the run goes on, unless a bracket in a path is to blame. -/
theorem accounts_say {after : FileSystem} {message : Text} {print : Text → Text} {next : FileRun}
    (hplain : '[' ∉ request.path → '[' ∉ request.exportTo →
      ∃ plain, Markup.plain message = .ok plain)
    (hnext : request.Accounts files next.ending) :
    request.Accounts files (FileRun.say after message print next).ending := by
  unfold FileRun.say
  split
  · exact hnext
  · next cause hcause =>
    -- the message was not printed, so one of the paths has a bracket
    refine .bracket (Decidable.or_iff_not_not_and_not.2 fun h => ?_)
    obtain ⟨plain, hok⟩ := hplain h.1 h.2
    rw [hok] at hcause
    cases hcause

/-- Where no step fails the run ends with either code. -/
theorem accounts_conclude (h : ¬ request.Fails files) (reading : Reading Entity)
    (after : FileSystem) : request.Accounts files (request.conclude reading after).ending := by
  unfold conclude
  split
  · exact ⟨.inr rfl, fun hfails => absurd hfails h⟩
  · exact ⟨.inl rfl, fun hfails => absurd hfails h⟩

section

variable {text : Text} {reading : Reading Entity}

/-- A file that has been read and matches makes a run fail only in the export. -/
theorem Fails.exists_error (h : request.Fails files)
    (hread : files.readText (Path.ofText request.path) = .ok text)
    (hmodel : readModel text = .ok reading) (hmatched : reading.matched = true) :
    request.exportTo.isEmpty = false ∧ ∃ cause, (files.exportRecords none reading.items
      (Path.ofText request.exportTo)).2 = .error cause := by
  cases h with
  | reading hread' =>
    rw [hread] at hread'
    cases hread'
  | numeral hread' hmodel' =>
    obtain rfl := Except.ok.inj (hread.symm.trans hread')
    rw [hmodel] at hmodel'
    cases hmodel'
  | matching hread' hmodel' hmatched' =>
    obtain rfl := Except.ok.inj (hread.symm.trans hread')
    obtain rfl := Except.ok.inj (hmodel.symm.trans hmodel')
    rw [hmatched] at hmatched'
    cases hmatched'
  | exporting hread' hmodel' hwanted hexport =>
    obtain rfl := Except.ok.inj (hread.symm.trans hread')
    obtain rfl := Except.ok.inj (hmodel.symm.trans hmodel')
    exact ⟨hwanted, _, hexport⟩

/-- The records of a reading that matched have a snapshot. -/
theorem document_items (hmodel : readModel text = .ok reading) (hmatched : reading.matched = true) :
    Yaml.document reading.items = .ok (Yaml.snapshot reading.items) := by
  obtain ⟨items, matched, remainder⟩ := reading
  obtain rfl : matched = true := hmatched
  exact document_of_readModel hmodel

/-- The end of a run whose export has failed. -/
theorem accounts_of_error (hmodel : readModel text = .ok reading)
    (hmatched : reading.matched = true) (hwanted : request.exportTo.isEmpty = false)
    {after : FileSystem} {error : ExportError}
    (hexport : files.exportRecords none reading.items (Path.ofText request.exportTo) =
      (after, .error error)) :
    request.Accounts files (request.writeSnapshot reading files).ending := by
  have herror : (files.exportRecords none reading.items (Path.ofText request.exportTo)).2 =
      .error error := by
    rw [hexport]
  -- the records have a snapshot, since they were read; a target without a name and one that the
  -- system cannot be asked for leave the run; what the system refuses is reported
  rcases FileSystem.exportRecords_error_cases herror with
    ⟨cause, hdocument, rfl⟩ | ⟨hname, rfl⟩ | ⟨temporary, hsibling, ⟨hpassable, rfl⟩ | hfailure⟩
  · rw [document_items hmodel hmatched] at hdocument
    cases hdocument
  · simp only [writeSnapshot, hexport]
    exact .unnamed hwanted hname
  · simp only [writeSnapshot, hexport]
    refine .impassable (.inr (Decidable.byContradiction fun hnull => ?_))
    rw [Path.isPassable_sibling hsibling (by decide), Path.isPassable_ofText hnull] at hpassable
    cases hpassable
  · have hsay : request.Accounts files (FileRun.say after (notExportedMessage error) Display.print
        (FileRun.done after 1)).ending :=
      accounts_say (fun _ htarget => exists_plain_notExportedMessage hfailure hsibling
        (Path.bracketless_ofText htarget)) accounts_exit_one
    obtain ⟨cause, rfl | rfl, -⟩ := hfailure <;> simpa only [writeSnapshot, hexport] using hsay

/-- The end of a run that exports. -/
theorem accounts_writeSnapshot (hread : files.readText (Path.ofText request.path) = .ok text)
    (hmodel : readModel text = .ok reading) (hmatched : reading.matched = true)
    (hwanted : request.exportTo.isEmpty = false) :
    request.Accounts files (request.writeSnapshot reading files).ending := by
  cases hexport : files.exportRecords none reading.items (Path.ofText request.exportTo) with
  | mk after result =>
    cases result with
    | error error => exact accounts_of_error hmodel hmatched hwanted hexport
    | ok done =>
      -- the export has succeeded, so no step of this run fails
      have hnone : ¬ request.Fails files := fun hfails => by
        obtain ⟨-, cause, herror⟩ := hfails.exists_error hread hmodel hmatched
        rw [hexport] at herror
        cases herror
      simp only [writeSnapshot, hexport, ending_after]
      exact accounts_say (fun _ htarget => exists_plain_exportedMessage
        (Path.bracketless_ofText htarget) _) (accounts_conclude hnone reading after)

/-- The end of a run on a file that has been read. -/
theorem accounts_runOnText (hread : files.readText (Path.ofText request.path) = .ok text) :
    request.Accounts files (request.runOnText files text).ending := by
  unfold runOnText
  split
  · next cause hmodel =>
    obtain ⟨place, hlong⟩ := exists_isLongNumeral_of_readModel_eq_error hmodel
    exact .numeral hread hlong
  · next reading hmodel =>
    -- a text without a list is reported; otherwise the export comes first, if there is to be one
    cases hmatched : reading.matched with
    | false =>
      simp only [Bool.not_false, if_true, ending_after]
      exact accounts_say (fun hpath _ => exists_plain_noListMessage hpath) accounts_exit_one
    | true =>
      simp only [Bool.not_true, Bool.false_eq_true, if_false, ending_after]
      cases hwanted : request.exportTo.isEmpty with
      | false => exact accounts_writeSnapshot hread hmodel hmatched hwanted
      | true =>
        refine accounts_conclude (fun hfails => ?_) reading files
        obtain ⟨hwanted', -⟩ := hfails.exists_error hread hmodel hmatched
        rw [hwanted] at hwanted'
        cases hwanted'

end

/-- **How a run on a file ends:** with code 0 or 1, and with 1 whenever a step fails, unless a
path, the target's name or a numeral in the file keeps it from ending so. -/
theorem run_exits_or_blames (request : FileRequest) (files : FileSystem) :
    (∃ code, (code = 0 ∨ code = 1) ∧ (request.run files).ending = .exit code ∧
      (request.Fails files → code = 1)) ∨
    ∃ cause, (request.run files).ending = .escape cause ∧ request.Blames files cause := by
  have haccounts : request.Accounts files (request.run files).ending := by
    -- the file has a text, its path cannot be given to the system, or it cannot be read
    unfold run
    split
    · next text hread => exact accounts_runOnText hread
    · next hread =>
      refine .impassable (.inl (Decidable.byContradiction fun hnull => ?_))
      have hpassable := FileSystem.isPassable_of_readText_eq_impassable hread
      rw [Path.isPassable_ofText hnull] at hpassable
      cases hpassable
    · next cause hread =>
      exact accounts_say (fun hpath _ => exists_plain_unreadableMessage hpath hread)
        accounts_exit_one
  cases hending : (request.run files).ending with
  | exit code =>
    rw [hending] at haccounts
    exact .inl ⟨code, haccounts.1, rfl, haccounts.2⟩
  | escape cause =>
    rw [hending] at haccounts
    exact .inr ⟨cause, rfl, haccounts⟩

/-- A path that reads like the end of a style, and leads to no file, keeps the message about it
from being printed. -/
theorem run_escapes_at_bracket :
    (FileRequest.run { path := "[/]".toList } {}).ending =
      .escape (.markup (.nothingToClose 41)) := by
  decide +kernel

end FileRequest

end Famix.CommandLine
