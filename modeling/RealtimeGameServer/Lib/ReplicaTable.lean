import Mathlib.Data.List.Nodup

/-!
# Tables kept by replacement and by delta

A replica keeps a table from keys to partial records. A whole message replaces
the table, a delta deletes keys and merges each partial record into the entry
of its key. Both are folds of one operation, `upsert`, whose effect on a key is
read off the first record named by that key when no two records share a name.
-/
namespace RealtimeGameServer.Lib

/-- The change a delta carries for one field: the new value where it differs. -/
def changed {α : Type*} [DecidableEq α] (old new : α) : Option α :=
  if old ≠ new then some new else none

/-- Over an entry that holds `held`, the delta from `old` arrives at `new` where
the field differs from `old` or is already held. -/
theorem changed_or_iff {α : Type*} [DecidableEq α] (held old new : α) :
    (changed old new).or (some held) = some new ↔ held = new ∨ old ≠ new := by
  unfold changed
  split
  next h => simp [h]
  next h =>
    rw [not_not] at h
    simp [h]

namespace ReplicaTable
variable {κ π : Type*} [DecidableEq κ] (name : π → κ)

/-- Store `put held p` under the name of `p`. -/
def upsert (put : Option π → π → π) (table : κ → Option π) (p : π) : κ → Option π :=
  fun k => if k = name p then some (put (table k) p) else table k

/-- A whole message: the table made of its records. -/
def replace (records : List π) : κ → Option π :=
  records.foldl (upsert name fun _ p => p) fun _ => none

/-- Merge into a present entry, insert where there is none. -/
def mergeInto (merge : π → π → π) : Option π → π → π
  | none, p => p
  | some entry, p => merge entry p

/-- A delta: delete the removed keys, then merge the changes. -/
def applyDelta (merge : π → π → π) (table : κ → Option π) (changes : List π) (removed : List κ) :
    κ → Option π :=
  changes.foldl (upsert name (mergeInto merge)) fun k => if k ∈ removed then none else table k

variable {name}

theorem foldl_upsert (put : Option π → π → π) (records : List π) (table : κ → Option π)
    (distinct : (records.map name).Nodup) (k : κ) :
    records.foldl (upsert name put) table k =
      match records.find? (fun p => name p = k) with
      | some p => some (put (table k) p)
      | none => table k := by
  induction records generalizing table with
  | nil => rfl
  | cons p rest ih =>
    rw [List.map_cons, List.nodup_cons] at distinct
    rw [List.foldl_cons, ih _ distinct.2, List.find?_cons]
    by_cases hp : name p = k
    · have hnone : rest.find? (fun q => name q = k) = none := by
        rw [List.find?_eq_none]
        intro q hq hqk
        exact distinct.1 (List.mem_map.mpr ⟨q, hq, (of_decide_eq_true hqk).trans hp.symm⟩)
      simp [hp, hnone, upsert]
    · have hk : ¬k = name p := fun h => hp h.symm
      simp [hp, hk, upsert]

theorem replace_get {records : List π} (distinct : (records.map name).Nodup) (k : κ) :
    replace name records k = records.find? fun p => name p = k := by
  rw [replace, foldl_upsert _ _ _ distinct]
  cases records.find? fun p => name p = k <;> rfl

theorem applyDelta_get (merge : π → π → π) (table : κ → Option π) {changes : List π}
    (distinct : (changes.map name).Nodup) (removed : List κ) (k : κ) :
    applyDelta name merge table changes removed k =
      match changes.find? (fun p => name p = k) with
      | some p => some (mergeInto merge (if k ∈ removed then none else table k) p)
      | none => if k ∈ removed then none else table k := by
  rw [applyDelta, foldl_upsert _ _ _ distinct]

section Derived
variable {σ : Type*} {key : σ → κ} {f : σ → Option π} (name : π → κ)
  (named : ∀ a p, f a = some p → name p = key a)
include named

omit [DecidableEq κ] in
theorem derived_names_sublist (records : List σ) :
    ((records.filterMap f).map name).Sublist (records.map key) := by
  induction records with
  | nil => exact List.Sublist.slnil
  | cons a rest ih =>
    rw [List.filterMap_cons, List.map_cons]
    split
    next => exact ih.cons _
    next p hp =>
      rw [List.map_cons, named a p hp]
      exact ih.cons_cons _

theorem find?_derived {records : List σ} (distinct : (records.map key).Nodup) (k : κ) :
    ((records.filterMap f).find? fun p => name p = k) =
      (records.find? fun a => key a = k).bind f := by
  induction records with
  | nil => rfl
  | cons a rest ih =>
    rw [List.map_cons, List.nodup_cons] at distinct
    rw [List.filterMap_cons, List.find?_cons]
    by_cases ha : key a = k
    · rw [decide_eq_true ha]
      -- no later record has this key, so none of their changes has this name
      have hrest : ((rest.filterMap f).find? fun p => name p = k) = none := by
        rw [List.find?_eq_none]
        intro p hp hpk
        have hmem := (derived_names_sublist name named rest).subset (List.mem_map_of_mem hp)
        rw [of_decide_eq_true hpk, ← ha] at hmem
        exact distinct.1 hmem
      cases hf : f a with
      | none => simp only [hrest, Option.bind_some, hf]
      | some p => simp [hf, named a p hf, ha]
    · rw [decide_eq_false ha, ← ih distinct.2]
      cases hf : f a with
      | none => rfl
      | some p => simp [named a p hf, ha]

end Derived

end ReplicaTable
end RealtimeGameServer.Lib
