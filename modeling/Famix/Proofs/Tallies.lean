/-
What a tally says of a list of records.

A record of a kind that is known already is counted where the kind stands, a record of a new
kind at the end (`add_map_of_mem`, `add_map_of_not_mem`). So a tally lists the kinds in the
order in which they first occur, each with the number of its records (`ofEntities_eq`), and
whatever else is said of tallies here follows from that.
-/
import Famix.Entity.Tally
import Mathlib.Data.List.Induction
import Mathlib.Data.List.Nodup

set_option autoImplicit false

namespace Famix

/-- The kinds of the records of a list, one for each record. -/
def kinds (entities : List Entity) : List Kind := entities.map Entity.kind

theorem kinds_append_singleton (entities : List Entity) (entity : Entity) :
    kinds (entities ++ [entity]) = kinds entities ++ [entity.kind] := List.map_append

namespace Tally

variable {kind : Kind} {known : List Kind} {count : Kind → Nat}

/-! ## Counting one more record -/

/-- A record of a new kind is counted behind all kinds that are known. -/
theorem add_map_of_not_mem (h : kind ∉ known) :
    add kind (known.map fun k => (k, count k)) =
      known.map (fun k => (k, count k)) ++ [(kind, 1)] := by
  induction known with
  | nil => rfl
  | cons first known ih =>
    rw [List.mem_cons, not_or] at h
    rw [List.map_cons, add, if_neg (Ne.symm h.1), ih h.2, List.cons_append]

/-- A record of a known kind is counted where the kind stands, and nowhere else if it stands there
only. -/
theorem add_map_of_mem (hnodup : known.Nodup) (h : kind ∈ known) :
    add kind (known.map fun k => (k, count k)) =
      known.map fun k => (k, if k = kind then count k + 1 else count k) := by
  -- on the kinds that are known, up to the one that is counted
  induction known with
  | nil => cases h
  | cons first known ih =>
    rw [List.nodup_cons] at hnodup
    rw [List.map_cons, List.map_cons, add]
    by_cases hfirst : first = kind
    · -- the kind does not stand a second time behind its place
      subst hfirst
      have hothers : known.map (fun k => (k, if k = first then count k + 1 else count k)) =
          known.map fun k => (k, count k) := by
        refine List.map_congr_left fun k hk => ?_
        rw [if_neg (ne_of_mem_of_not_mem hk hnodup.1)]
      rw [if_pos rfl, if_pos rfl, hothers]
    · have hmem : kind ∈ known := (List.mem_cons.mp h).resolve_left (Ne.symm hfirst)
      rw [if_neg hfirst, if_neg hfirst, ih hnodup.2 hmem]

/-! ## Counting all records -/

theorem ofEntities_append_singleton (entities : List Entity) (entity : Entity) :
    ofEntities (entities ++ [entity]) = (ofEntities entities).add entity.kind :=
  List.foldl_concat ..

/-- A tally lists no kind twice. -/
theorem nodup_kinds_ofEntities (entities : List Entity) :
    ((ofEntities entities).map Prod.fst).Nodup := by
  induction entities using List.reverseRecOn with
  | nil => exact List.nodup_nil
  | append_singleton entities entity ih =>
    rw [ofEntities_append_singleton]
    exact nodup_kinds_add entity.kind ih

theorem nodup_of_ofEntities_eq {entities : List Entity}
    (h : ofEntities entities = known.map fun kind => (kind, count kind)) : known.Nodup := by
  have hkinds : (known.map fun kind => (kind, count kind)).map Prod.fst = known := by
    rw [List.map_map, Function.comp_def, List.map_id']
  rw [← hkinds, ← h]
  exact nodup_kinds_ofEntities entities

/-- One more record adds one to the count of its kind. -/
theorem count_kinds_append_singleton (entities : List Entity) (entity : Entity) (kind : Kind) :
    (kinds (entities ++ [entity])).count kind =
      if kind = entity.kind then (kinds entities).count kind + 1
      else (kinds entities).count kind := by
  rw [kinds_append_singleton, List.count_append, List.count_singleton]
  by_cases hkind : kind = entity.kind <;> simp [hkind, Ne.symm]

/-- A tally lists the kinds in the order of their first occurrence, each with the number of
its records. -/
theorem ofEntities_eq (entities : List Entity) :
    ofEntities entities =
      (kinds entities).eraseDups.map fun kind => (kind, (kinds entities).count kind) := by
  -- from the right, since the last record is the last to be counted
  induction entities using List.reverseRecOn with
  | nil => rfl
  | append_singleton entities entity ih =>
    have hnodup : (kinds entities).eraseDups.Nodup := nodup_of_ofEntities_eq ih
    rw [ofEntities_append_singleton, ih, kinds_append_singleton, List.eraseDups_append,
      ← kinds_append_singleton]
    simp only [count_kinds_append_singleton]
    -- whether the kind of the last record was known before
    by_cases hmem : entity.kind ∈ kinds entities
    · have hold : [entity.kind].removeAll (kinds entities) = [] := by simp [List.removeAll, hmem]
      rw [hold, List.eraseDups_nil, List.append_nil]
      exact add_map_of_mem hnodup (List.mem_eraseDups.mpr hmem)
    · have hnew : [entity.kind].removeAll (kinds entities) = [entity.kind] := by
        simp [List.removeAll, hmem]
      have hothers : ∀ kind ∈ (kinds entities).eraseDups, kind ≠ entity.kind :=
        fun kind hkind => ne_of_mem_of_not_mem (List.mem_eraseDups.mp hkind) hmem
      rw [hnew, add_map_of_not_mem fun h => hothers _ h rfl, List.map_append]
      congr 1
      · exact List.map_congr_left fun kind hkind => by rw [if_neg (hothers kind hkind)]
      · rw [List.eraseDups_cons, List.filter_nil, List.eraseDups_nil, List.map_singleton,
          if_pos rfl, List.count_eq_zero_of_not_mem hmem]

theorem nodup_eraseDups_kinds (entities : List Entity) : (kinds entities).eraseDups.Nodup :=
  nodup_of_ofEntities_eq (ofEntities_eq entities)

/-- A tally counts each record once. -/
theorem total_ofEntities (entities : List Entity) :
    (ofEntities entities).total = entities.length := by
  induction entities using List.reverseRecOn with
  | nil => rfl
  | append_singleton entities entity ih =>
    rw [ofEntities_append_singleton, total_add, ih, List.length_append, List.length_singleton]

/-- The order of the records makes no difference for the counts. -/
theorem perm_ofEntities {entities others : List Entity}
    (h : (kinds others).Perm (kinds entities)) :
    (ofEntities others).Perm (ofEntities entities) := by
  -- the kinds that occur are the same ones, in an order of their own
  have hkinds : (kinds others).eraseDups.Perm (kinds entities).eraseDups := by
    rw [List.perm_ext_iff_of_nodup (nodup_eraseDups_kinds others) (nodup_eraseDups_kinds entities)]
    intro kind
    rw [List.mem_eraseDups, List.mem_eraseDups, h.mem_iff]
  rw [ofEntities_eq, ofEntities_eq]
  simp only [h.count_eq]
  exact hkinds.map _

/-! ## The largest count -/

/-- The peak is the largest count, if there is any. -/
theorem max?_counts {tally : Tally} (h : tally ≠ []) :
    (tally.map Prod.snd).max? = some tally.peak := by
  obtain ⟨entry, others, rfl⟩ := List.exists_cons_of_ne_nil h
  rw [List.map_cons, List.max?_cons', peak, List.map_cons, List.foldl_cons, Nat.zero_max]

/-- No count exceeds the peak. -/
theorem count_le_peak {entities : List Entity} {kind : Kind} (h : kind ∈ kinds entities) :
    (kinds entities).count kind ≤ (ofEntities entities).peak := by
  have hentry : (kind, (kinds entities).count kind) ∈ ofEntities entities := by
    rw [ofEntities_eq]
    exact List.mem_map.mpr ⟨kind, List.mem_eraseDups.mpr h, rfl⟩
  have hmax := max?_counts (List.ne_nil_of_mem hentry)
  exact (List.max?_eq_some_iff.mp hmax).2 _ (List.mem_map.mpr ⟨_, hentry, rfl⟩)

/-- The peak is the count of some kind. -/
theorem exists_count_eq_peak {entities : List Entity} (h : entities ≠ []) :
    ∃ kind ∈ kinds entities, (kinds entities).count kind = (ofEntities entities).peak := by
  have htally : ofEntities entities ≠ [] := by
    intro hnil
    have htotal := total_ofEntities entities
    rw [hnil] at htotal
    exact h (List.length_eq_zero_iff.mp htotal.symm)
  have hmax := (List.max?_eq_some_iff.mp (max?_counts htally)).1
  rw [ofEntities_eq, List.map_map] at hmax
  obtain ⟨kind, hkind, hcount⟩ := List.mem_map.mp hmax
  rw [← ofEntities_eq] at hcount
  exact ⟨kind, List.mem_eraseDups.mp hkind, hcount⟩

end Tally

end Famix
