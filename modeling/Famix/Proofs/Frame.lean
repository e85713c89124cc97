/-
What a change of a file system leaves as it was.

Files are written, moved and removed one place at a time, and no operation makes or removes a
directory. So a change is framed by the few places it touches (`FramedBy`): the directories
stay, hence every path leads where it led before (`FramedBy.locate_eq_ok_iff`), and a path that
leads to none of the places finds what it found before (`FramedBy.at?_eq`).
-/
import Famix.File.System

set_option autoImplicit false

namespace Famix.FileSystem

variable {files after later : FileSystem} {location place : Location} {node : Node}
  {path target : Path}

/-! ## Nodes -/

/-- What was left out is not found. -/
theorem lookup_filter_self (nodes : List (Location × Node)) (location : Location) :
    (nodes.filter fun entry => entry.1 != location).lookup location = none := by
  rw [List.lookup_eq_none_iff]
  intro entry hentry
  have hne := (List.mem_filter.1 hentry).2
  simp only [bne_iff_ne, ne_eq] at hne
  simpa using fun heq => hne heq.symm

/-- What stands at other places is found as before. -/
theorem lookup_filter_of_ne (nodes : List (Location × Node)) (h : place ≠ location) :
    (nodes.filter fun entry => entry.1 != location).lookup place = nodes.lookup place := by
  induction nodes with
  | nil => rfl
  | cons entry nodes ih =>
    obtain ⟨key, node⟩ := entry
    rw [List.filter_cons]
    by_cases hkey : key = location
    · -- The entry that is left out stands at another place.
      have hplace : (place == key) = false := by
        rw [hkey]
        exact beq_false_of_ne h
      simp only [hkey, bne_self_eq_false, Bool.false_eq_true, if_false, ih]
      rw [List.lookup_cons, ← hkey, hplace]
    · simp only [bne_iff_ne, ne_eq, hkey, not_false_eq_true, if_true, List.lookup_cons, ih]

/-- What was put at a place stands there. -/
theorem node?_put_self (files : FileSystem) (location : Location) (node : Node) :
    (files.put location node).node? location = some node := by
  simp only [node?, put, List.lookup_cons, beq_self_eq_true]

/-- To put something at a place changes no other. -/
theorem node?_put_of_ne (files : FileSystem) (node : Node) (h : place ≠ location) :
    (files.put location node).node? place = files.node? place := by
  simp only [node?, put, List.lookup_cons, beq_false_of_ne h, lookup_filter_of_ne _ h]

/-- The root stays a directory even if nothing is listed there. -/
theorem node?_drop_self (files : FileSystem) (h : location ≠ []) :
    (files.drop location).node? location = none := by
  simp only [node?, drop, lookup_filter_self, List.isEmpty_iff, h, if_false]

/-- To drop a place changes no other. -/
theorem node?_drop_of_ne (files : FileSystem) (h : place ≠ location) :
    (files.drop location).node? place = files.node? place := by
  simp only [node?, drop, lookup_filter_of_ne _ h]

/-! ## Changes and the places they touch -/

/-- The change from one file system to the other touches only such places, and no directory. -/
structure FramedBy (Touched : Location → Prop) (files after : FileSystem) : Prop where
  current : after.current = files.current
  directories : ∀ location,
    after.node? location = some .directory ↔ files.node? location = some .directory
  nodes : ∀ location, ¬ Touched location → after.node? location = files.node? location

variable {Touched Allowed : Location → Prop}

namespace FramedBy

/-- Where nothing has changed, nothing was touched. -/
theorem refl (Touched : Location → Prop) (files : FileSystem) : FramedBy Touched files files :=
  ⟨rfl, fun _ => Iff.rfl, fun _ _ => rfl⟩

/-- A later change may touch the same places. -/
theorem trans (h : FramedBy Touched files after) (hlater : FramedBy Touched after later) :
    FramedBy Touched files later where
  current := hlater.current.trans h.current
  directories location := (hlater.directories location).trans (h.directories location)
  nodes location hlocation :=
    (hlater.nodes location hlocation).trans (h.nodes location hlocation)

/-- What is allowed may be more than what is touched. -/
theorem mono (h : FramedBy Touched files after)
    (hallowed : ∀ place, Touched place → Allowed place) : FramedBy Allowed files after where
  current := h.current
  directories := h.directories
  nodes location hlocation := h.nodes location fun htouched => hlocation (hallowed _ htouched)

/-- A change of what stands at one place, where no directory is before or afterwards. -/
theorem of_node (hcurrent : after.current = files.current) (hplace : Touched place)
    (hbefore : files.node? place ≠ some .directory) (hafter : after.node? place ≠ some .directory)
    (hnodes : ∀ location, location ≠ place → after.node? location = files.node? location) :
    FramedBy Touched files after where
  current := hcurrent
  directories location := by
    by_cases h : location = place
    · rw [h]
      exact iff_of_false hafter hbefore
    · rw [hnodes location h]
  nodes location hlocation := hnodes location fun h => hlocation (h ▸ hplace)

/-- To put a file where no directory stands touches that place. -/
theorem put_file (hplace : Touched place) (hnode : files.node? place ≠ some .directory)
    (content : Utf8.Bytes) : FramedBy Touched files (files.put place (.file content)) := by
  refine of_node rfl hplace hnode ?_ fun _ h => node?_put_of_ne files _ h
  rw [node?_put_self]
  exact fun h => nomatch h

/-- To drop what is no directory touches that place. The root is never dropped. -/
theorem drop_file (hplace : Touched place) (hnode : files.node? place ≠ some .directory)
    (hroot : place ≠ []) : FramedBy Touched files (files.drop place) := by
  refine of_node rfl hplace hnode ?_ fun _ h => node?_drop_of_ne files h
  rw [node?_drop_self files hroot]
  exact fun h => nomatch h

end FramedBy

/-! ## Where paths lead -/

/-- A path leads on from a directory, by a part that is not too long. -/
theorem follow_cons_eq_ok_iff {part : Text} {parts : List Text} :
    files.follow place (part :: parts) = .ok location ↔
      files.node? place = some .directory ∧ exceeds longestName part = false ∧
        files.follow (step place part) parts = .ok location := by
  rw [follow]
  split
  · next hnode => cases hlong : exceeds longestName part <;> simp [hnode]
  · next hnode => simp [hnode]
  · next hnode => simp [hnode]

/-- The last part of a path starts from the directory that the other parts lead to. -/
theorem follow_append_singleton_eq_ok_iff {parts : List Text} {part : Text} :
    files.follow place (parts ++ [part]) = .ok location ↔
      ∃ above, files.follow place parts = .ok above ∧ files.node? above = some .directory ∧
        exceeds longestName part = false ∧ location = step above part := by
  -- on the other parts, each of which leads to the place that the rest start from
  induction parts generalizing place with
  | nil =>
    rw [List.nil_append, follow_cons_eq_ok_iff]
    simp only [follow, Except.ok.injEq, exists_eq_left', eq_comm]
  | cons first parts ih =>
    rw [List.cons_append, follow_cons_eq_ok_iff, ih]
    simp only [follow_cons_eq_ok_iff]
    constructor
    · rintro ⟨hnode, hfits, above, hfollow, hlast⟩
      exact ⟨above, ⟨hnode, hfits, hfollow⟩, hlast⟩
    · rintro ⟨above, ⟨hnode, hfits, hfollow⟩, hlast⟩
      exact ⟨hnode, hfits, above, hfollow, hlast⟩

/-- Since directories stay, the way through them does. -/
theorem FramedBy.follow_eq_ok_iff (h : FramedBy Touched files after) {parts : List Text} :
    after.follow place parts = .ok location ↔ files.follow place parts = .ok location := by
  induction parts generalizing place with
  | nil => simp only [follow]
  | cons part parts ih => rw [follow_cons_eq_ok_iff, follow_cons_eq_ok_iff, h.directories, ih]

/-- Paths lead to the same places as before. Where they lead nowhere, the reason may have
become another one. -/
theorem FramedBy.locate_eq_ok_iff (h : FramedBy Touched files after) :
    after.locate path = .ok location ↔ files.locate path = .ok location := by
  simp only [locate, h.current]
  split
  · exact Iff.rfl
  · exact h.follow_eq_ok_iff

/-! ## What stands where a path leads to -/

/-- What stands where a path leads to, if it leads anywhere. -/
def at? (files : FileSystem) (path : Path) : Option Node :=
  if path.isPassable then
    match files.locate path with
    | .ok place => files.node? place
    | .error _ => none
  else none

/-- Something stands where a path leads to if it stands at that place. -/
theorem at?_eq_node? (hpath : path.isPassable = true) (h : files.locate path = .ok place) :
    files.at? path = files.node? place := by
  rw [at?, if_pos hpath, h]

/-- A path finds something if it can be given to the system and leads to where that stands. -/
theorem at?_eq_some_iff :
    files.at? path = some node ↔
      path.isPassable = true ∧ ∃ place, files.locate path = .ok place ∧
        files.node? place = some node := by
  rw [at?]
  cases hpath : path.isPassable
  · simp
  · cases hlocate : files.locate path <;> simp

/-- A path that leads to none of the touched places finds what it found before. -/
theorem FramedBy.at?_eq (h : FramedBy Touched files after)
    (hpath : ∀ place, Touched place → files.locate path ≠ .ok place) :
    after.at? path = files.at? path := by
  refine Option.ext fun node => ?_
  rw [at?_eq_some_iff, at?_eq_some_iff]
  refine and_congr_right fun _ => exists_congr fun place => ?_
  rw [h.locate_eq_ok_iff]
  refine and_congr_right fun hlocate => ?_
  rw [h.nodes place fun hplace => hpath place hplace hlocate]

/-- Both paths lead to one place. -/
def SamePlace (files : FileSystem) (path other : Path) : Prop :=
  ∃ place, files.locate path = .ok place ∧ files.locate other = .ok place

end Famix.FileSystem
