import Mathlib.Data.List.Nodup

/-!
# Insertion-ordered maps with unique keys

The JavaScript `Map`: iteration follows the order in which keys were first
inserted, `set` on a present key overwrites the value where it stands, and
`delete` forgets the position. Uniqueness of the keys is a field, so a map that
holds a key twice cannot be built and no later proof has to exclude it.
Every lookup law is read off membership (`get_eq_some`).
-/
namespace RealtimeGameServer.Lib

/-- The entries in insertion order, each key at most once. -/
structure JsMap (κ ν : Type*) where
  entries : List (κ × ν)
  unique : (entries.map Prod.fst).Nodup

namespace JsMap
variable {κ ν ω : Type*}

def empty : JsMap κ ν := ⟨[], List.nodup_nil⟩

def keys (m : JsMap κ ν) : List κ := m.entries.map Prod.fst

def values (m : JsMap κ ν) : List ν := m.entries.map Prod.snd

def size (m : JsMap κ ν) : Nat := m.entries.length

variable [DecidableEq κ]

def get (m : JsMap κ ν) (k : κ) : Option ν := m.entries.lookup k

def has (m : JsMap κ ν) (k : κ) : Bool := (m.get k).isSome

/-- Overwrite in place, the list form of `set` on a present key. -/
def overwrite (k : κ) (v : ν) (e : κ × ν) : κ × ν := if e.1 = k then (k, v) else e

theorem overwrite_fst (k : κ) (v : ν) (e : κ × ν) : (overwrite k v e).1 = e.1 := by
  unfold overwrite
  split
  next h => exact h.symm
  next => rfl

theorem overwrite_keys (k : κ) (v : ν) (l : List (κ × ν)) :
    (l.map (overwrite k v)).map Prod.fst = l.map Prod.fst := by
  rw [List.map_map]
  exact List.map_congr_left fun e _ => overwrite_fst k v e

def set (m : JsMap κ ν) (k : κ) (v : ν) : JsMap κ ν :=
  if h : k ∈ m.keys then
    ⟨m.entries.map (overwrite k v), by rw [overwrite_keys]; exact m.unique⟩
  else
    ⟨m.entries ++ [(k, v)], by
      rw [List.map_append]
      exact List.Nodup.append m.unique (List.nodup_singleton k) (by simpa [keys] using h)⟩

def delete (m : JsMap κ ν) (k : κ) : JsMap κ ν :=
  ⟨m.entries.filter fun e => e.1 ≠ k, m.unique.sublist (List.filter_sublist.map _)⟩

/-- Deletion of every entry that fails the test, in one pass. -/
def filter (m : JsMap κ ν) (keep : κ → ν → Bool) : JsMap κ ν :=
  ⟨m.entries.filter fun e => keep e.1 e.2, m.unique.sublist (List.filter_sublist.map _)⟩

/-- `new Map(pairs)`: later pairs overwrite earlier ones. -/
def ofList (pairs : List (κ × ν)) : JsMap κ ν :=
  pairs.foldl (fun m e => m.set e.1 e.2) empty

theorem get_eq_some (m : JsMap κ ν) (k : κ) (v : ν) :
    m.get k = some v ↔ (k, v) ∈ m.entries := by
  obtain ⟨l, hl⟩ := m
  simp only [get]
  induction l with
  | nil => simp
  | cons e rest ih =>
    obtain ⟨a, b⟩ := e
    rw [List.map_cons, List.nodup_cons] at hl
    by_cases hka : k = a
    · subst hka
      have habsent : (k, v) ∉ rest := fun hmem => hl.1 (List.mem_map.mpr ⟨_, hmem, rfl⟩)
      simp [habsent, eq_comm]
    · simp [List.lookup_cons, hka, beq_eq_false_iff_ne.mpr hka, ih hl.2]

theorem mem_keys (m : JsMap κ ν) (k : κ) : k ∈ m.keys ↔ ∃ v, m.get k = some v := by
  simp [keys, get_eq_some]

theorem get_eq_none (m : JsMap κ ν) (k : κ) : m.get k = none ↔ k ∉ m.keys := by
  rw [mem_keys, Option.eq_none_iff_forall_ne_some]
  simp

theorem has_iff (m : JsMap κ ν) (k : κ) : m.has k = true ↔ k ∈ m.keys := by
  rw [has, Option.isSome_iff_exists, mem_keys]

theorem mem_values (m : JsMap κ ν) (v : ν) : v ∈ m.values ↔ ∃ k, m.get k = some v := by
  simp [values, get_eq_some]

theorem size_eq_zero (m : JsMap κ ν) : m.size = 0 ↔ ∀ k, m.get k = none := by
  rw [size, List.length_eq_zero_iff, List.eq_nil_iff_forall_not_mem]
  constructor
  · intro h k
    rw [get_eq_none, keys, List.mem_map]
    rintro ⟨e, he, _⟩
    exact h e he
  · rintro h ⟨k, v⟩ hmem
    rw [← get_eq_some, h k] at hmem
    cases hmem

@[simp] theorem get_empty (k : κ) : (empty : JsMap κ ν).get k = none := rfl

omit [DecidableEq κ] in
@[simp] theorem size_empty : (empty : JsMap κ ν).size = 0 := rfl

omit [DecidableEq κ] in
@[simp] theorem keys_empty : (empty : JsMap κ ν).keys = [] := rfl

theorem keys_set_of_mem {m : JsMap κ ν} {k : κ} (h : k ∈ m.keys) (v : ν) :
    (m.set k v).keys = m.keys := by
  rw [set, dif_pos h]
  exact overwrite_keys k v m.entries

theorem keys_set_of_absent {m : JsMap κ ν} {k : κ} (h : k ∉ m.keys) (v : ν) :
    (m.set k v).keys = m.keys ++ [k] := by
  rw [set, dif_neg h]
  exact List.map_append

theorem keys_delete_sublist (m : JsMap κ ν) (k : κ) : (m.delete k).keys.Sublist m.keys :=
  List.filter_sublist.map _

theorem mem_entries_set (m : JsMap κ ν) (k j : κ) (v w : ν) :
    (j, w) ∈ (m.set k v).entries ↔ (j = k ∧ w = v) ∨ (j ≠ k ∧ (j, w) ∈ m.entries) := by
  unfold set
  split
  next h =>
    obtain ⟨⟨a, b⟩, hab, rfl⟩ := List.mem_map.mp h
    simp only [List.mem_map, overwrite]
    constructor
    · rintro ⟨e, he, heq⟩
      split at heq
      next => exact Or.inl ⟨(congrArg Prod.fst heq).symm, (congrArg Prod.snd heq).symm⟩
      next hne =>
        subst heq
        exact Or.inr ⟨hne, he⟩
    · rintro (⟨rfl, rfl⟩ | ⟨hne, hmem⟩)
      · exact ⟨_, hab, by simp⟩
      · exact ⟨_, hmem, by simp [hne]⟩
  next h =>
    have habsent : (k, w) ∉ m.entries := fun hmem => h (List.mem_map.mpr ⟨_, hmem, rfl⟩)
    by_cases hjk : j = k
    · subst hjk
      simp [habsent]
    · simp [hjk]

theorem get_set (m : JsMap κ ν) (k j : κ) (v : ν) :
    (m.set k v).get j = if j = k then some v else m.get j := by
  refine Option.ext fun w => ?_
  rw [get_eq_some, mem_entries_set]
  by_cases hjk : j = k
  · simp [hjk, eq_comm]
  · simp [hjk, get_eq_some]

@[simp] theorem get_set_self (m : JsMap κ ν) (k : κ) (v : ν) : (m.set k v).get k = some v := by
  rw [get_set, if_pos rfl]

theorem get_set_of_ne (m : JsMap κ ν) {k j : κ} (h : j ≠ k) (v : ν) :
    (m.set k v).get j = m.get j := by
  rw [get_set, if_neg h]

theorem mem_keys_set (m : JsMap κ ν) (k j : κ) (v : ν) :
    j ∈ (m.set k v).keys ↔ j = k ∨ j ∈ m.keys := by
  rw [mem_keys, mem_keys, get_set]
  by_cases hjk : j = k <;> simp [hjk]

theorem get_delete (m : JsMap κ ν) (k j : κ) :
    (m.delete k).get j = if j = k then none else m.get j := by
  refine Option.ext fun w => ?_
  rw [get_eq_some, delete, List.mem_filter]
  by_cases hjk : j = k
  · simp [hjk]
  · simp [hjk, get_eq_some]

/-- An entry after a store is the stored one, or one from before under another key. -/
theorem get_set_cases {m : JsMap κ ν} {k j : κ} {v w : ν} (h : (m.set k v).get j = some w) :
    (j = k ∧ w = v) ∨ (j ≠ k ∧ m.get j = some w) := by
  by_cases hjk : j = k
  · subst hjk
    rw [get_set_self] at h
    exact Or.inl ⟨rfl, (Option.some.inj h).symm⟩
  · rw [get_set_of_ne m hjk] at h
    exact Or.inr ⟨hjk, h⟩

theorem get_delete_cases {m : JsMap κ ν} {k j : κ} {w : ν} (h : (m.delete k).get j = some w) :
    j ≠ k ∧ m.get j = some w := by
  rw [get_delete] at h
  split at h
  next => cases h
  next hjk => exact ⟨hjk, h⟩

/-- What holds of every entry and of the stored one holds of every entry after the store. -/
theorem forall_get_set {P : κ → ν → Prop} {m : JsMap κ ν} (h : ∀ j w, m.get j = some w → P j w)
    {k : κ} {v : ν} (hv : P k v) : ∀ j w, (m.set k v).get j = some w → P j w := by
  intro j w hw
  rcases get_set_cases hw with ⟨rfl, rfl⟩ | ⟨-, hold⟩
  · exact hv
  · exact h j w hold

theorem forall_get_delete {P : κ → ν → Prop} {m : JsMap κ ν}
    (h : ∀ j w, m.get j = some w → P j w) (k : κ) : ∀ j w, (m.delete k).get j = some w → P j w :=
  fun j w hw => h j w (get_delete_cases hw).2

theorem size_set_of_absent {m : JsMap κ ν} {k : κ} (h : m.get k = none) (v : ν) :
    (m.set k v).size = m.size + 1 := by
  rw [get_eq_none] at h
  rw [set, dif_neg h]
  exact List.length_append

theorem size_set_of_present {m : JsMap κ ν} {k : κ} (h : m.get k ≠ none) (v : ν) :
    (m.set k v).size = m.size := by
  rw [Ne, get_eq_none, not_not] at h
  rw [set, dif_pos h]
  exact List.length_map _

theorem size_delete_le (m : JsMap κ ν) (k : κ) : (m.delete k).size ≤ m.size :=
  List.length_filter_le _ _

omit [DecidableEq κ] in
theorem eq_of_entries {m n : JsMap κ ν} (h : m.entries = n.entries) : m = n := by
  cases m
  cases n
  cases h
  rfl

theorem map_overwrite_of_absent {l : List (κ × ν)} {k : κ} (h : k ∉ l.map Prod.fst) (v : ν) :
    l.map (overwrite k v) = l := by
  refine (List.map_congr_left fun e he => ?_).trans (List.map_id l)
  have hne : e.1 ≠ k := fun heq => h (heq ▸ List.mem_map_of_mem he)
  exact if_neg hne

/-- Of two writes to one key the second remains. -/
theorem set_set (m : JsMap κ ν) (k : κ) (v w : ν) : (m.set k v).set k w = m.set k w := by
  have hmem : k ∈ (m.set k v).keys := (mem_keys_set m k k v).mpr (Or.inl rfl)
  have hentries : (m.set k v).entries.map (overwrite k w) = (m.set k w).entries := by
    by_cases h : k ∈ m.keys
    · simp only [set, dif_pos h, List.map_map]
      refine List.map_congr_left fun e _ => ?_
      simp only [Function.comp, overwrite]
      split <;> simp_all
    · simp only [set, dif_neg h, List.map_append, map_overwrite_of_absent h, List.map_cons,
        List.map_nil, overwrite, if_true]
  rw [set, dif_pos hmem]
  exact eq_of_entries hentries

/-- A write to a key that is then deleted leaves nothing behind. -/
theorem delete_set (m : JsMap κ ν) (k : κ) (v : ν) : (m.set k v).delete k = m.delete k := by
  refine eq_of_entries ?_
  by_cases h : k ∈ m.keys
  · have hcomp : ∀ e : κ × ν, (overwrite k v e).1 = e.1 := overwrite_fst k v
    simp only [delete, set, dif_pos h, List.filter_map, Function.comp_def, hcomp]
    refine (List.map_congr_left fun e he => ?_).trans (List.map_id _)
    have hne : e.1 ≠ k := of_decide_eq_true (List.mem_filter.mp he).2
    exact if_neg hne
  · simp [delete, set, dif_neg h]

theorem delete_eq_self (m : JsMap κ ν) (k : κ) : m.delete k = m ↔ m.get k = none := by
  constructor
  · intro h
    rw [← h, get_delete, if_pos rfl]
  · intro h
    refine eq_of_entries (List.filter_eq_self.mpr fun e he => ?_)
    refine decide_eq_true fun heq => ?_
    rw [(get_eq_some m k e.2).mpr (heq ▸ he)] at h
    cases h

theorem set_eq_self (m : JsMap κ ν) (k : κ) (v : ν) : m.set k v = m ↔ m.get k = some v := by
  constructor
  · intro h
    rw [← h, get_set_self]
  · intro h
    have hmem : k ∈ m.keys := (mem_keys m k).mpr ⟨v, h⟩
    rw [set, dif_pos hmem]
    refine eq_of_entries ((List.map_congr_left fun e he => ?_).trans (List.map_id _))
    unfold overwrite
    split
    next heq =>
      -- the one entry of the key holds the value already
      have hsame := (get_eq_some m k e.2).mpr (heq ▸ he)
      rw [h] at hsame
      rw [Option.some.inj hsame, ← heq]
      rfl
    next => rfl

theorem get_filter_of_get {m : JsMap κ ν} {keep : κ → ν → Bool} {k : κ} {v : ν}
    (h : (m.filter keep).get k = some v) : m.get k = some v ∧ keep k v = true := by
  rw [get_eq_some] at h
  obtain ⟨hmem, hkeep⟩ := List.mem_filter.mp h
  exact ⟨(get_eq_some m k v).mpr hmem, hkeep⟩

theorem get_filter_of_keep {m : JsMap κ ν} {keep : κ → ν → Bool} {k : κ} {v : ν}
    (h : m.get k = some v) (hkeep : keep k v = true) : (m.filter keep).get k = some v := by
  rw [get_eq_some] at h ⊢
  exact List.mem_filter.mpr ⟨h, hkeep⟩

theorem filter_eq_self (m : JsMap κ ν) (keep : κ → ν → Bool) :
    m.filter keep = m ↔ ∀ k v, m.get k = some v → keep k v = true := by
  constructor
  · intro h k v hget
    rw [← h] at hget
    exact (get_filter_of_get hget).2
  · intro h
    refine eq_of_entries (List.filter_eq_self.mpr fun e he => ?_)
    exact h e.1 e.2 ((get_eq_some m e.1 e.2).mpr he)

/-- A purge and a deletion change nothing only if neither does. -/
theorem delete_filter_eq_self (m : JsMap κ ν) (keep : κ → ν → Bool) (k : κ) :
    (m.filter keep).delete k = m ↔ m.filter keep = m ∧ m.get k = none := by
  constructor
  · intro h
    have hkeep : m.filter keep = m := by
      rw [filter_eq_self]
      intro j v hget
      rw [← h, get_delete] at hget
      split at hget
      next => cases hget
      next => exact (get_filter_of_get hget).2
    rw [hkeep, delete_eq_self] at h
    exact ⟨hkeep, h⟩
  · rintro ⟨hkeep, hnone⟩
    rw [hkeep, delete_eq_self]
    exact hnone

/-- Setting every element under its own key, the `for … of` loop that stores a
list: a key of the list reads the last element stored under it. -/
theorem get_foldl_set (key : ω → κ) (val : ω → ν) (l : List ω) (m : JsMap κ ν)
    (distinct : (l.map key).Nodup) (k : κ) :
    (l.foldl (fun acc x => acc.set (key x) (val x)) m).get k =
      match l.find? (fun x => key x = k) with
      | some x => some (val x)
      | none => m.get k := by
  induction l generalizing m with
  | nil => rfl
  | cons x rest ih =>
    rw [List.map_cons, List.nodup_cons] at distinct
    rw [List.foldl_cons, ih _ distinct.2, List.find?_cons]
    by_cases hx : key x = k
    · have hnone : rest.find? (fun y => key y = k) = none := by
        rw [List.find?_eq_none]
        intro y hy hyk
        exact distinct.1 (List.mem_map.mpr ⟨y, hy, (of_decide_eq_true hyk).trans hx.symm⟩)
      simp [hx, hnone]
    · rw [decide_eq_false hx, get_set_of_ne m (Ne.symm hx)]

theorem get_foldl_delete (l : List κ) (m : JsMap κ ν) (k : κ) :
    (l.foldl delete m).get k = if k ∈ l then none else m.get k := by
  induction l generalizing m with
  | nil => simp
  | cons a rest ih =>
    rw [List.foldl_cons, ih, get_delete]
    by_cases hk : k ∈ rest
    · simp [hk]
    · by_cases hka : k = a <;> simp [hk, hka]

theorem mem_keys_ofList (pairs : List (κ × ν)) (k : κ) :
    k ∈ (ofList pairs).keys ↔ k ∈ pairs.map Prod.fst := by
  have general : ∀ (l : List (κ × ν)) (m : JsMap κ ν),
      k ∈ (l.foldl (fun m e => m.set e.1 e.2) m).keys ↔ k ∈ m.keys ∨ k ∈ l.map Prod.fst := by
    intro l
    induction l with
    | nil => simp
    | cons e rest ih =>
      intro m
      rw [List.foldl_cons, ih, mem_keys_set, List.map_cons, List.mem_cons]
      tauto
  rw [ofList, general]
  simp

section Named
variable {m : JsMap κ ν} (name : ν → κ) (named : ∀ k v, m.get k = some v → name v = k)
include named

theorem map_values_eq_keys : m.values.map name = m.keys := by
  rw [values, keys, List.map_map]
  refine List.map_congr_left fun e he => ?_
  exact named e.1 e.2 ((get_eq_some m e.1 e.2).mpr he)

theorem find?_values (k : κ) : (m.values.find? fun v => name v = k) = m.get k := by
  cases hk : m.get k with
  | none =>
    rw [List.find?_eq_none]
    intro v hv hvk
    obtain ⟨j, hj⟩ := (mem_values m v).mp hv
    have hjk : j = k := (named j v hj).symm.trans (of_decide_eq_true hvk)
    rw [hjk, hk] at hj
    cases hj
  | some v =>
    have hv : v ∈ m.values := (mem_values m v).mpr ⟨k, hk⟩
    cases hfound : m.values.find? fun w => name w = k with
    | none =>
      rw [List.find?_eq_none] at hfound
      exact absurd (decide_eq_true (named k v hk)) (hfound v hv)
    | some w =>
      -- the value found is stored under its own name, which is `k`
      obtain ⟨j, hj⟩ := (mem_values m w).mp (List.mem_of_find?_eq_some hfound)
      have hname : name w = k := by simpa using List.find?_some hfound
      rw [(named j w hj).symm.trans hname, hk] at hj
      exact hj.symm

end Named

end JsMap
end RealtimeGameServer.Lib
