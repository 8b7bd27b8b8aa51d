import Mathlib.Data.List.Nodup

/-!
# Tables with unique indices

A table is a list of rows with a list of indices, each of which holds every key
at most once. The uniqueness is a field: an insert that would repeat a key gives
no table, and an update has to keep the keys of the rows it changes.
-/
namespace RealtimeGameServer.Lib

/-- Rows in insertion order, no two of them with the same key in an index. -/
structure UniqueTable {α κ : Type*} (indices : List (α → κ)) where
  rows : List α
  unique : ∀ key ∈ indices, (rows.map key).Nodup

namespace UniqueTable
variable {α κ : Type*} {indices : List (α → κ)}

def empty : UniqueTable indices := ⟨[], fun _ _ => List.nodup_nil⟩

section
variable [DecidableEq κ]

/-- Insert a row; `none` when an index already has its key. -/
def insertRow (t : UniqueTable indices) (row : α) : Option (UniqueTable indices) :=
  if h : ∀ key ∈ indices, key row ∉ t.rows.map key then
    some ⟨t.rows ++ [row], fun key hkey => by
      rw [List.map_append]
      refine List.Nodup.append (t.unique key hkey) (List.nodup_singleton _) ?_
      simpa using h key hkey⟩
  else none

/-- The row with a key, for a lookup by a unique field. -/
def findUnique (t : UniqueTable indices) (key : α → κ) (k : κ) : Option α :=
  t.rows.find? fun row => key row = k

end

/-- Change the selected rows, keeping their keys. -/
def updateMany (t : UniqueTable indices) (selected : α → Bool) (change : α → α)
    (keeps : ∀ key ∈ indices, ∀ row, key (change row) = key row) : UniqueTable indices where
  rows := t.rows.map fun row => if selected row then change row else row
  unique := by
    intro key hkey
    rw [List.map_map]
    refine (List.map_congr_left fun row _ => ?_) ▸ t.unique key hkey
    rw [Function.comp]
    split
    next => exact (keeps key hkey row).symm
    next => rfl

theorem eq_of_key (t : UniqueTable indices) (key : α → κ) (hkey : key ∈ indices) {a b : α}
    (ha : a ∈ t.rows) (hb : b ∈ t.rows) (h : key a = key b) : a = b :=
  List.inj_on_of_nodup_map (t.unique key hkey) ha hb h

/-- A selection that holds one key of an index selects one row. -/
theorem countP_eq_one [DecidableEq α] (t : UniqueTable indices) (key : α → κ)
    (hkey : key ∈ indices) {selected : α → Bool} {row : α} (h : row ∈ t.rows)
    (hrow : selected row = true) (honly : ∀ other, selected other = true → key other = key row) :
    t.rows.countP selected = 1 := by
  have hcount : t.rows.count row = 1 := List.count_eq_one_of_mem (t.unique key hkey).of_map h
  rw [← hcount, List.count]
  refine List.countP_congr fun other hother => ?_
  rw [beq_iff_eq]
  constructor
  · intro hselected
    exact t.eq_of_key key hkey hother h (honly other hselected)
  · rintro rfl
    exact hrow

variable [DecidableEq κ]

theorem findUnique_eq_some (t : UniqueTable indices) {key : α → κ} {k : κ} {row : α}
    (h : t.findUnique key k = some row) : row ∈ t.rows ∧ key row = k := by
  unfold findUnique at h
  exact ⟨List.mem_of_find?_eq_some h, by simpa using List.find?_some h⟩

/-- A lookup by a unique field finds the row that has the key. -/
theorem findUnique_of_mem (t : UniqueTable indices) {key : α → κ} (hkey : key ∈ indices) {row : α}
    (h : row ∈ t.rows) : t.findUnique key (key row) = some row := by
  cases hfound : t.findUnique key (key row) with
  | none =>
    unfold findUnique at hfound
    simpa using List.find?_eq_none.mp hfound row h
  | some found =>
    obtain ⟨hmem, heq⟩ := t.findUnique_eq_some hfound
    rw [t.eq_of_key key hkey hmem h heq]

/-- An inserted row had a new key in every index. -/
theorem fresh_insertRow {t u : UniqueTable indices} {row : α} (h : t.insertRow row = some u)
    (key : α → κ) (hkey : key ∈ indices) : ∀ old ∈ t.rows, key old ≠ key row := by
  unfold insertRow at h
  split at h
  next hfresh =>
    intro old hold heq
    exact hfresh key hkey (heq ▸ List.mem_map_of_mem hold)
  next => cases h

theorem rows_insertRow {t u : UniqueTable indices} {row : α} (h : t.insertRow row = some u) :
    u.rows = t.rows ++ [row] := by
  unfold insertRow at h
  split at h <;> cases h
  rfl

end UniqueTable
end RealtimeGameServer.Lib
