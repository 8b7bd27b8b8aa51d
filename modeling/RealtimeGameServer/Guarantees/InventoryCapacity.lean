import RealtimeGameServer.Guarantees.InventoryConservation

/-!
# The capacity of an inventory

`addItem` counts the rows it can see and inserts without a lock on the inventory,
so two additions of different new items that overlap both find the last free
slot. The unique key keeps the rows of one item apart, and every quantity that is
written was computed from a positive one, so an inventory stays sound along a run
if and only if every commit of a new row finds a free slot among the committed
ones.
-/
namespace RealtimeGameServer.Guarantees.InventoryCapacity
open Lib ReadCommitted Source Source.Inventory
open InventoryConservation (rowAt guarded)

/-- At most `capacity` rows, one for each item key, all with a positive quantity. -/
structure Sound (playerId : String) (inventory : InventoryRow) (db : InventoryDb) : Prop where
  stored : db.inventories.get playerId = some inventory
  capacity : (itemsOf db inventory.id).length ≤ inventory.capacity
  unique : ((itemsOf db inventory.id).map Prod.fst).Nodup
  positive : ∀ itemKey row, (itemKey, row) ∈ itemsOf db inventory.id → 1 ≤ row.quantity

/-- A transaction that has put in a new row of the inventory finds, when it
commits, fewer than `capacity` committed rows. -/
def FindsSlot (inventory : InventoryRow) (a : Active Effect (String × String) Call Pc)
    (db : InventoryDb) : Prop :=
  ∀ itemKey row, ⟨(inventory.id, itemKey), some row⟩ ∈ a.pending →
    db.items.get (inventory.id, itemKey) = none →
    (itemsOf db inventory.id).length < inventory.capacity

def Positive (inventoryId : String) (db : InventoryDb) : Prop :=
  ∀ itemKey row, db.items.get (inventoryId, itemKey) = some row → 1 ≤ row.quantity

/-- A transaction has one effect once it has written, and what it writes into the
inventory is positive. -/
def Knows (inventoryId : String) (a : Active Effect (String × String) Call Pc)
    (_db : InventoryDb) : Prop :=
  match a.pc with
  | .findInventory call => a.pending = [] ∧ 0 < call.quantity
  | .findItems call _ => a.pending = [] ∧ 0 < call.quantity
  | .update id _ _ quantity => a.pending = [] ∧ (id = inventoryId → 1 ≤ quantity)
  | .create _ input _ => a.pending = [] ∧ 1 ≤ input.quantity
  | .delete _ _ _ => a.pending = []
  | .finish _ => ∃ effect : Effect, a.pending = [effect] ∧
      (effect.key.1 = inventoryId → ∀ row, effect.row = some row → 1 ≤ row.quantity)

theorem Knows.ran {inventoryId : String} {db : InventoryDb}
    {a : Active Effect (String × String) Call Pc} {effects : List Effect} {next : Pc}
    (hdb : Positive inventoryId db) (h : Knows inventoryId a db)
    (hrun : run a.pc (protocol.view a db) = .continues effects next) :
    Knows inventoryId ⟨a.call, next, a.pending ++ effects,
      a.held ++ protocol.needs a.pc (protocol.view a db)⟩ db := by
  obtain ⟨call, pc, pending, held⟩ := a
  have hcontinues := run_continues hrun
  cases pc with
  | findInventory call' =>
    obtain ⟨rfl, hquantity⟩ := h
    cases hcontinues
    exact ⟨rfl, hquantity⟩
  | findItems call' inventory =>
    obtain ⟨rfl, hquantity⟩ := h
    cases hcontinues with
    | addUpdates found =>
      refine ⟨rfl, fun heq => ?_⟩
      rw [lookup_itemsOf, heq] at found
      have hread := hdb _ _ found
      simp only [Call.quantity] at hquantity
      omega
    | addCreates => exact ⟨rfl, hquantity⟩
    | removeDeletes => rfl
    | removeUpdates found more =>
      have hmore : ∀ a b : Int, a < b → 1 ≤ b - a := by omega
      exact ⟨rfl, fun _ => hmore _ _ more⟩
  | update id itemKey existing quantity =>
    obtain ⟨rfl, hquantity⟩ := h
    cases hcontinues
    refine ⟨_, rfl, ?_⟩
    rintro heq _ ⟨⟩
    exact hquantity heq
  | create id input rowId =>
    obtain ⟨rfl, hquantity⟩ := h
    cases hcontinues with
    | created absent quantity =>
      refine ⟨_, rfl, ?_⟩
      rintro - _ ⟨⟩
      rw [quantity]
      exact hquantity
  | delete id itemKey existing =>
    cases h
    cases hcontinues
    exact ⟨_, rfl, nofun⟩
  | finish result =>
    cases hcontinues
    obtain ⟨effect, hpending, hrow⟩ := h
    exact ⟨effect, (List.append_nil _).trans hpending, hrow⟩

/-- A transaction that commits has written one effect. -/
theorem Knows.written {inventoryId : String} {db : InventoryDb}
    {a : Active Effect (String × String) Call Pc} (h : Knows inventoryId a db)
    (hfollow : follow a.pc ≠ .statement) : ∃ effect : Effect, a.pending = [effect] ∧
      (effect.key.1 = inventoryId → ∀ row, effect.row = some row → 1 ≤ row.quantity) := by
  obtain ⟨call, pc, pending, held⟩ := a
  cases pc with
  | finish => exact h
  | _ => exact absurd rfl hfollow

theorem positive_apply {inventoryId : String} {db : InventoryDb} (h : Positive inventoryId db)
    {effect : Effect}
    (hrow : effect.key.1 = inventoryId → ∀ row, effect.row = some row → 1 ≤ row.quantity) :
    Positive inventoryId (apply db effect) := by
  intro itemKey row hget
  rw [get_apply] at hget
  split at hget
  next heq => exact hrow (congrArg Prod.fst heq.symm) row hget
  next => exact h itemKey row hget

theorem rule (inventoryId : String) :
    Rule protocol rowAt (fun db _ => Positive inventoryId db) (Knows inventoryId)
      fun _ _ => True where
  frame _ _ _ _ h := h
  opened := by
    intro call pc db hopens
    change opens call = _ at hopens
    unfold opens at hopens
    split at hopens <;> cases hopens
    next hquantity => exact ⟨rfl, Int.not_le.mp hquantity⟩
  ran _ _ _ _ _ hdb h _ hrun := h.ran hdb hrun
  proceeded := by
    rintro ⟨call, pc, pending, held⟩ db log next - - hfollow
    cases pc <;> cases hfollow
  returned := by
    intro a db log number result hdb h hfollow
    obtain ⟨effect, hpending, hrow⟩ := h.written fun hstatement => by
      rw [show protocol.follow a.pc = follow a.pc from rfl, hstatement] at hfollow
      cases hfollow
    rw [Protocol.view, hpending]
    exact positive_apply hdb hrow

theorem length_itemsOf (db : InventoryDb) (inventoryId : String) :
    (itemsOf db inventoryId).length = (db.items.keys.filterMap fun key =>
      if key.1 = inventoryId then some key.2 else none).length := by
  rw [← itemsOf_keys, List.length_map]

/-- A new row is one row more in its inventory. -/
theorem length_itemsOf_insert {db : InventoryDb} {inventoryId itemKey : String}
    (absent : db.items.get (inventoryId, itemKey) = none) (row : ItemRow) :
    (itemsOf (apply db ⟨(inventoryId, itemKey), some row⟩) inventoryId).length =
      (itemsOf db inventoryId).length + 1 := by
  rw [length_itemsOf, length_itemsOf]
  change ((db.items.set (inventoryId, itemKey) row).keys.filterMap _).length = _
  rw [JsMap.keys_set_of_absent ((JsMap.get_eq_none _ _).mp absent), List.filterMap_append]
  simp

/-- Any other write leaves no more rows than there were. -/
theorem length_itemsOf_le {db : InventoryDb} {effect : Effect} {inventoryId : String}
    (hold : ∀ row, effect.row = some row → effect.key.1 = inventoryId →
      db.items.get effect.key ≠ none) :
    (itemsOf (apply db effect) inventoryId).length ≤ (itemsOf db inventoryId).length := by
  obtain ⟨⟨id, itemKey⟩, written⟩ := effect
  rw [length_itemsOf, length_itemsOf]
  cases written with
  | none => exact ((JsMap.keys_delete_sublist _ _).filterMap _).length_le
  | some row =>
    change ((db.items.set (id, itemKey) row).keys.filterMap _).length ≤ _
    by_cases hmem : (id, itemKey) ∈ db.items.keys
    · rw [JsMap.keys_set_of_mem hmem]
    · -- a new row of another inventory
      have hother : id ≠ inventoryId := fun heq =>
        hold row rfl heq ((JsMap.get_eq_none _ _).mpr hmem)
      rw [JsMap.keys_set_of_absent hmem, List.filterMap_append]
      simp [hother]

/-- A commit keeps the inventory sound if and only if its new row finds a slot. -/
theorem sound_commit_iff {playerId : String} {inventory : InventoryRow} {db : InventoryDb}
    {a : Active Effect (String × String) Call Pc} (hknows : Knows inventory.id a db)
    (hfollow : follow a.pc ≠ .statement) (h : Sound playerId inventory db) :
    Sound playerId inventory (protocol.view a db) ↔ FindsSlot inventory a db := by
  obtain ⟨effect, hpending, hrow⟩ := hknows.written hfollow
  have hview : protocol.view a db = apply db effect := by
    rw [Protocol.view, hpending]
    rfl
  have hpositive : Positive inventory.id db := fun itemKey row hget =>
    h.positive itemKey row (mem_itemsOf.mpr hget)
  rw [hview]
  constructor
  · intro hsound itemKey row hmem habsent
    rw [hpending, List.mem_singleton] at hmem
    subst hmem
    have hcapacity := hsound.capacity
    rw [length_itemsOf_insert habsent] at hcapacity
    exact hcapacity
  · intro hslot
    constructor
    case stored => exact h.stored
    case unique => exact itemsOf_unique _ _
    case positive =>
      intro itemKey row hmem
      exact positive_apply hpositive hrow itemKey row (mem_itemsOf.mp hmem)
    case capacity =>
      by_cases hnew : ∃ row, effect.row = some row ∧ effect.key.1 = inventory.id ∧
          db.items.get effect.key = none
      · obtain ⟨⟨id, itemKey⟩, written⟩ := effect
        obtain ⟨row, rfl, rfl, habsent⟩ := hnew
        rw [length_itemsOf_insert habsent]
        exact hslot itemKey row (hpending ▸ List.mem_singleton_self _) habsent
      · refine (length_itemsOf_le fun row hwritten hid habsent => ?_).trans h.capacity
        exact hnew ⟨row, hwritten, hid, habsent⟩

/-- One row for each key and positive quantities hold in every run. -/
theorem keys_and_quantities_hold (inventoryId : String) (db : InventoryDb)
    (hdb : Positive inventoryId db) (events : List (ReadCommitted.Event Call Failure)) :
    (machine protocol).Along (fun s =>
      ((itemsOf s.committed inventoryId).map Prod.fst).Nodup ∧ Positive inventoryId s.committed)
      (start db) events :=
  (along_of_free_rule guarded (rule inventoryId) hdb events).mono fun _ h =>
    ⟨itemsOf_unique _ _, h.globally⟩

/-- An inventory that starts sound is sound in every committed state of a run if
and only if every commit of a new row of it finds a free slot. -/
theorem inventory_sound_iff (playerId : String) (inventory : InventoryRow) (db : InventoryDb)
    (hdb : Sound playerId inventory db) (events : List (ReadCommitted.Event Call Failure)) :
    (machine protocol).Along (fun s => Sound playerId inventory s.committed) (start db) events ↔
      (machine protocol).StepsMeet (CommitOk protocol (FindsSlot inventory)) (start db) events := by
  have hpositive : Positive inventory.id db := fun itemKey row hget =>
    hdb.positive itemKey row (mem_itemsOf.mpr hget)
  exact along_iff_rule_commits guarded (rule inventory.id)
    (fun _ _ _ _ hknows h hfollow => sound_commit_iff hknows hfollow h) hpositive hdb events

/-- A player whose inventory has one slot, and nothing in it. -/
def oneSlot : InventoryDb where
  inventories := JsMap.empty.set "p1" ⟨"i1", 1⟩
  items := JsMap.empty
  distinct := by
    intro p q i j hp hq _
    have hone : ∀ k v, (JsMap.empty.set "p1" (⟨"i1", 1⟩ : InventoryRow)).get k = some v →
        k = "p1" := by
      intro k v hk
      rw [JsMap.get_set] at hk
      split at hk
      next heq => exact heq
      next => cases hk
    rw [hone p i hp, hone q j hq]

theorem oneSlot_sound : Sound "p1" ⟨"i1", 1⟩ oneSlot where
  stored := rfl
  capacity := Nat.zero_le 1
  unique := List.nodup_nil
  positive := nofun

def give (itemKey rowId : String) : Call :=
  .addItem { playerId := "p1", itemKey, name := itemKey, quantity := 1, metadata := none } rowId

/-- Both additions count the rows before either inserts. -/
def overlappingAdds : List (ReadCommitted.Event Call Failure) :=
  [.call (give "sword" "r1"), .call (give "shield" "r2"),
    .statement 0, .statement 0, .statement 1, .statement 1,
    .statement 0, .commit 0, .statement 1, .commit 1]

theorem overlappingAdds_overfill : ¬(machine protocol).Along
    (fun s => Sound "p1" ⟨"i1", 1⟩ s.committed) (start oneSlot) overlappingAdds := by
  intro h
  have htwo := (h.last rfl).capacity
  exact absurd htwo (by decide)

/-- Not every run keeps a sound inventory sound. -/
theorem overlapping_adds_overfill : ¬∀ (playerId : String) (inventory : InventoryRow)
    (db : InventoryDb), Sound playerId inventory db →
      ∀ events : List (ReadCommitted.Event Call Failure), (machine protocol).Along
        (fun s => Sound playerId inventory s.committed) (start db) events :=
  fun h => overlappingAdds_overfill (h "p1" ⟨"i1", 1⟩ oneSlot oneSlot_sound overlappingAdds)

/-- The second of the two additions commits without a free slot. -/
theorem overlapping_adds_miss_slot : ¬(machine protocol).StepsMeet
    (CommitOk protocol (FindsSlot ⟨"i1", 1⟩)) (start oneSlot) overlappingAdds :=
  fun h => overlappingAdds_overfill
    ((inventory_sound_iff "p1" ⟨"i1", 1⟩ oneSlot oneSlot_sound overlappingAdds).mpr h)

end RealtimeGameServer.Guarantees.InventoryCapacity
