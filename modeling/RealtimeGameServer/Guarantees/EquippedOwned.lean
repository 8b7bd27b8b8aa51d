import RealtimeGameServer.Source.PlayerCalls

/-!
# Equipped items are owned

`equipItem` asks for a row of the item when it runs, for one slot and whatever the
quantity; `removeItem` never looks at the equipment. Over calls that run one after the
other from empty items and equipment, every equipped item is owned in the number of slots
that hold it precisely when no call equips an item that the other slots already use up,
and none removes what the slots need.
-/
namespace RealtimeGameServer.Guarantees.EquippedOwned
open Lib Source Source.PlayerService
open Source.Inventory (itemAt Attached itemAt_apply itemAt_insertInventory)

/-- The slots that hold an item. -/
def slotsHolding (equipment : Equipment) (itemKey : String) : Nat :=
  equipmentSlots.countP fun slot => equipment.get slot = some itemKey

/-- The slots that hold an item, without one of them. -/
def otherSlotsHolding (equipment : Equipment) (slot : EquipmentSlot) (itemKey : String) : Nat :=
  equipmentSlots.countP fun other => other ≠ slot ∧ equipment.get other = some itemKey

/-- Each equipped item has a row, in at least the number of slots that hold it. -/
def Owned (db : PlayerDb) : Prop :=
  ∀ playerId equipment, db.players.get playerId = some equipment →
    ∀ slot itemKey, equipment.get slot = some itemKey →
      ∃ row, itemAt db.inventory playerId itemKey = some row ∧
        slotsHolding equipment itemKey ≤ row.quantity

/-- A call with what its repository calls draw. -/
abbrev DrawnCall := PlayerService.Call × List (Except Failure String)

/-- Calls that run one after the other, each to its end. -/
def services : Machine PlayerDb DrawnCall := Calls.sequential program opens

/-- No items, and nothing equipped. -/
structure Empty (db : PlayerDb) : Prop where
  items : db.inventory.items = .empty
  equipment : ∀ playerId equipment, db.players.get playerId = some equipment →
    equipment = emptyEquipment

/-- The call does not equip more than there is, and does not remove what is equipped. -/
def sparesEquipped (db : PlayerDb) : DrawnCall → Prop
  | (.equipItem playerId slot itemKey, draws) => ¬Rejected draws → ∀ row equipment,
    itemAt db.inventory playerId itemKey = some row → db.players.get playerId = some equipment →
      otherSlotsHolding equipment slot itemKey < row.quantity
  | (.removeItem input, draws) => ¬Rejected draws → 0 < input.quantity → ∀ row equipment,
    itemAt db.inventory input.playerId input.itemKey = some row →
      db.players.get input.playerId = some equipment → input.quantity ≤ row.quantity →
        slotsHolding equipment input.itemKey ≤ row.quantity - input.quantity
  | _ => True

theorem slotsHolding_setEquipmentSlot (equipment : Equipment) (slot : EquipmentSlot)
    (item : Option String) (itemKey : String) :
    slotsHolding (setEquipmentSlot equipment slot item) itemKey =
      otherSlotsHolding equipment slot itemKey + if item = some itemKey then 1 else 0 := by
  simp only [slotsHolding, otherSlotsHolding, get_setEquipmentSlot, equipmentSlots, List.countP_cons,
    List.countP_nil]
  cases slot <;> simp <;> omega

theorem otherSlotsHolding_le (equipment : Equipment) (slot : EquipmentSlot) (itemKey : String) :
    otherSlotsHolding equipment slot itemKey ≤ slotsHolding equipment itemKey :=
  List.countP_mono_left fun other _ h => by
    rw [decide_eq_true_eq] at h ⊢
    exact h.2

theorem slotsHolding_pos {equipment : Equipment} {itemKey : String} :
    0 < slotsHolding equipment itemKey ↔ ∃ slot, equipment.get slot = some itemKey := by
  rw [slotsHolding, List.countP_pos_iff]
  constructor
  · rintro ⟨slot, -, h⟩
    exact ⟨slot, decide_eq_true_eq.mp h⟩
  · rintro ⟨slot, h⟩
    exact ⟨slot, mem_equipmentSlots slot, decide_eq_true_eq.mpr h⟩

theorem slotsHolding_emptyEquipment (itemKey : String) : slotsHolding emptyEquipment itemKey = 0 := by
  refine Nat.eq_zero_of_not_pos fun hpos => ?_
  obtain ⟨slot, h⟩ := slotsHolding_pos.mp hpos
  rw [get_emptyEquipment] at h
  cases h

/-- What a player has of an item. -/
def quantityOf (db : InventoryDb) (playerId itemKey : String) : Int :=
  ((itemAt db playerId itemKey).map ItemRow.quantity).getD 0

/-- There is at least one of each item that has a row, and the rows are in inventories. -/
structure Stocked (db : InventoryDb) : Prop where
  attached : Attached db
  quantities : ∀ playerId itemKey row, itemAt db playerId itemKey = some row →
    1 ≤ row.quantity ∧ inInt4 row.quantity

structure Kept (db : PlayerDb) : Prop where
  stocked : Stocked db.inventory
  covered : ∀ playerId equipment, db.players.get playerId = some equipment → ∀ itemKey,
    slotsHolding equipment itemKey ≤ quantityOf db.inventory playerId itemKey

theorem Kept.owned {db : PlayerDb} (h : Kept db) : Owned db := by
  intro playerId equipment hequipment slot itemKey hslot
  have hcovered := h.covered playerId equipment hequipment itemKey
  have hpos : 0 < slotsHolding equipment itemKey := slotsHolding_pos.mpr ⟨slot, hslot⟩
  cases hitem : itemAt db.inventory playerId itemKey with
  | none =>
    rw [quantityOf, hitem, Option.map_none, Option.getD_none] at hcovered
    omega
  | some row =>
    rw [quantityOf, hitem] at hcovered
    exact ⟨row, rfl, hcovered⟩

theorem Empty.kept {db : PlayerDb} (h : Empty db) : Kept db := by
  have hnone : ∀ playerId itemKey, itemAt db.inventory playerId itemKey = none := by
    intro playerId itemKey
    rw [itemAt, h.items]
    cases db.inventory.inventories.get playerId <;> rfl
  refine ⟨⟨?_, ?_⟩, ?_⟩
  · intro key row hget
    rw [h.items] at hget
    cases hget
  · intro playerId itemKey row hitem
    rw [hnone] at hitem
    cases hitem
  · intro playerId equipment hequipment itemKey
    rw [h.equipment playerId equipment hequipment, slotsHolding_emptyEquipment, quantityOf, hnone]
    exact le_refl 0

theorem Stocked.apply {db : InventoryDb} (h : Stocked db) {playerId itemKey : String}
    {inventory : InventoryRow} (found : db.inventories.get playerId = some inventory)
    {row : Option ItemRow} (hrow : ∀ written, row = some written →
      1 ≤ written.quantity ∧ inInt4 written.quantity) :
    Stocked (Inventory.apply db ⟨(inventory.id, itemKey), row⟩) := by
  refine ⟨h.attached.apply found row, fun player key written hitem => ?_⟩
  rw [itemAt_apply found] at hitem
  split at hitem
  next => exact hrow written hitem
  next => exact h.quantities player key written hitem

theorem quantityOf_apply {db : InventoryDb} {playerId itemKey : String} {inventory : InventoryRow}
    (found : db.inventories.get playerId = some inventory) (row : Option ItemRow)
    (player key : String) :
    quantityOf (Inventory.apply db ⟨(inventory.id, itemKey), row⟩) player key =
      if player = playerId ∧ key = itemKey then (row.map ItemRow.quantity).getD 0
      else quantityOf db player key := by
  rw [quantityOf, itemAt_apply found]
  split <;> rfl

/-- Nothing is taken from anybody. -/
theorem Stocked.ensured {db db' : InventoryDb} (h : Stocked db) {playerId : String}
    (hensured : Ensured db playerId db') :
    Stocked db' ∧ ∀ player key, quantityOf db' player key = quantityOf db player key := by
  cases hensured with
  | present => exact ⟨h, fun _ _ => rfl⟩
  | created missing fresh =>
    have hitem := itemAt_insertInventory h.attached missing fresh
    refine ⟨⟨?_, ?_⟩, fun player key => by rw [quantityOf, hitem, quantityOf]⟩
    · intro key row hget
      obtain ⟨owner, inventory, hinventory, hid⟩ := h.attached key row hget
      refine ⟨owner, inventory, (JsMap.get_set_of_ne _ ?_ _).trans hinventory, hid⟩
      rintro rfl
      cases missing.symm.trans hinventory
    · intro player key row hrow
      rw [hitem] at hrow
      exact h.quantities player key row hrow

theorem Stocked.addItem {db db' : InventoryDb} (h : Stocked db) {input : AddItemInput}
    {rowId : String} {item : Option InventoryItemEntity}
    (hadd : Inventory.addItem db input rowId = .ok (db', item)) :
    Stocked db' ∧ ∀ player key, quantityOf db player key ≤ quantityOf db' player key := by
  obtain ⟨inventory, row, found, rfl, hpositive, hrange, hquantity⟩ :=
    Inventory.addItem_eq_ok hadd
  have hold : 0 ≤ quantityOf db input.playerId input.itemKey := by
    rw [quantityOf]
    cases hitem : itemAt db input.playerId input.itemKey with
    | none => exact le_refl 0
    | some old => exact Int.le_of_lt (h.quantities _ _ old hitem).1
  have hsum : row.quantity = quantityOf db input.playerId input.itemKey + input.quantity := hquantity
  refine ⟨h.apply found fun written hwritten => ?_, fun player key => ?_⟩
  · cases hwritten
    exact ⟨by omega, hrange⟩
  · rw [quantityOf_apply found]
    split
    next heq =>
      obtain ⟨rfl, rfl⟩ := heq
      rw [Option.map_some, Option.getD_some]
      omega
    next => exact le_refl _

theorem Stocked.removeItem {db db' : InventoryDb} (h : Stocked db) {input : RemoveItemInput}
    {item : Option InventoryItemEntity}
    (hremove : Inventory.removeItem db input = .ok (db', item)) :
    Stocked db' ∧ ∀ player key, quantityOf db' player key =
      if player = input.playerId ∧ key = input.itemKey then
        quantityOf db player key - input.quantity
      else quantityOf db player key := by
  obtain ⟨inventory, row, found, hitem, hpositive, henough, rfl⟩ :=
    Inventory.removeItem_eq_ok hremove
  have hrange := inInt4_sub (h.quantities _ _ row hitem).2 hpositive henough
  constructor
  · refine h.apply found fun written hwritten => ?_
    split at hwritten
    next => cases hwritten
    next hmore =>
      cases hwritten
      exact ⟨by dsimp only; omega, hrange⟩
  · intro player key
    rw [quantityOf_apply found]
    split
    next heq =>
      obtain ⟨rfl, rfl⟩ := heq
      rw [quantityOf, hitem, Option.map_some, Option.getD_some]
      split
      next hall =>
        rw [Option.map_none, Option.getD_none]
        omega
      next => rfl
    next => rfl

theorem Kept.setEquipment {db : PlayerDb} (h : Kept db) {playerId : String}
    {equipment : Equipment} (hequipment : db.players.get playerId = some equipment)
    (slot : EquipmentSlot) (item : Option String)
    (henough : ∀ itemKey, item = some itemKey →
      otherSlotsHolding equipment slot itemKey < quantityOf db.inventory playerId itemKey) :
    Kept { db with players := db.players.set playerId (setEquipmentSlot equipment slot item) } := by
  refine ⟨h.stocked, fun player worn hworn itemKey => ?_⟩
  dsimp only at hworn
  rw [JsMap.get_set] at hworn
  split at hworn
  next heq =>
    subst heq
    cases hworn
    rw [slotsHolding_setEquipmentSlot]
    split
    next hitem =>
      have hless := henough itemKey hitem
      push_cast
      omega
    next =>
      have hcovered := h.covered player equipment hequipment itemKey
      have hle := otherSlotsHolding_le equipment slot itemKey
      push_cast
      omega
  next => exact h.covered player worn hworn itemKey

theorem Kept.step {db db' : PlayerDb} {call : DrawnCall} (h : Kept db)
    (hstep : services.step db call = some db') (hspares : sparesEquipped db call) : Kept db' := by
  obtain ⟨call, draws⟩ := call
  obtain ⟨result, hfinish⟩ := Calls.sequential_step hstep
  cases call with
  | addItem input =>
    obtain ⟨ensured, hensured, hadded⟩ := addItem_cases hfinish
    obtain ⟨hstocked, hsame⟩ := h.stocked.ensured hensured
    rcases hadded with rfl | ⟨rowId, inventory, item, hadd, rfl⟩
    · refine ⟨hstocked, fun player equipment hequipment itemKey => ?_⟩
      rw [hsame]
      exact h.covered player equipment hequipment itemKey
    · obtain ⟨hstocked', hmore⟩ := hstocked.addItem hadd
      refine ⟨hstocked', fun player equipment hequipment itemKey => ?_⟩
      have hcovered := h.covered player equipment hequipment itemKey
      rw [← hsame] at hcovered
      exact le_trans hcovered (hmore player itemKey)
  | removeItem input =>
    rcases removeItem_cases hfinish with ⟨rfl, -⟩ | ⟨inventory, item, hremove, hok, rfl⟩
    · exact h
    · obtain ⟨hstocked, hless⟩ := h.stocked.removeItem hremove
      obtain ⟨-, row, -, hitem, hpositive, henough, -⟩ := Inventory.removeItem_eq_ok hremove
      refine ⟨hstocked, fun player equipment hequipment itemKey => ?_⟩
      rw [hless]
      split
      next heq =>
        obtain ⟨rfl, rfl⟩ := heq
        rw [quantityOf, hitem]
        exact hspares hok hpositive row equipment hitem hequipment henough
      next => exact h.covered player equipment hequipment itemKey
  | equipItem playerId slot itemKey =>
    rcases equipItem_cases hfinish with ⟨rfl, -⟩ | ⟨row, equipment, hitem, hequipment, hok, rfl⟩
    · exact h
    · refine h.setEquipment hequipment slot (some itemKey) fun key hkey => ?_
      cases hkey
      rw [quantityOf, hitem]
      exact hspares hok row equipment hitem hequipment
  | unequipItem playerId slot =>
    rcases unequipItem_cases hfinish with rfl | ⟨equipment, hequipment, rfl⟩
    · exact h
    · exact h.setEquipment hequipment slot none nofun

/-- A call after which every equipped item is owned has spared what is equipped. -/
theorem spares_of_owned {db db' : PlayerDb} {call : DrawnCall} (h : Kept db)
    (hstep : services.step db call = some db') (howned : Owned db') : sparesEquipped db call := by
  obtain ⟨call, draws⟩ := call
  obtain ⟨result, hfinish⟩ := Calls.sequential_step hstep
  cases call with
  | addItem input => trivial
  | unequipItem playerId slot => trivial
  | equipItem playerId slot itemKey =>
    intro hok row equipment hitem hequipment
    rcases equipItem_cases hfinish with ⟨-, hnone | hnone | hrejected⟩ |
      ⟨row', equipment', hitem', hequipment', -, rfl⟩
    · cases hnone.symm.trans hitem
    · cases hnone.symm.trans hequipment
    · exact absurd hrejected hok
    · cases hequipment.symm.trans hequipment'
      have hworn : (setEquipmentSlot equipment slot (some itemKey)).get slot = some itemKey := by
        rw [get_setEquipmentSlot, if_pos rfl]
      obtain ⟨owned, howned, hcount⟩ :=
        howned playerId _ (JsMap.get_set_self _ _ _) slot itemKey hworn
      cases hitem.symm.trans howned
      rw [slotsHolding_setEquipmentSlot, if_pos rfl] at hcount
      push_cast at hcount
      omega
  | removeItem input =>
    intro hok hpositive row equipment hitem hequipment henough
    rcases removeItem_cases hfinish with ⟨-, hrejected | ⟨failure, hfailure⟩⟩ |
      ⟨inventory, item, hremove, -, rfl⟩
    · exact absurd hrejected hok
    · have hrange := (h.stocked.quantities _ _ row hitem).2
      exact absurd (inInt4_sub hrange hpositive henough)
        (Inventory.removeItem_eq_error hfailure hitem hpositive henough)
    · obtain ⟨-, hless⟩ := h.stocked.removeItem hremove
      have hleft := hless input.playerId input.itemKey
      rw [if_pos ⟨rfl, rfl⟩, quantityOf, quantityOf, hitem, Option.map_some, Option.getD_some] at hleft
      rcases Nat.eq_zero_or_pos (slotsHolding equipment input.itemKey) with hzero | hpos
      · omega
      · obtain ⟨slot, hslot⟩ := slotsHolding_pos.mp hpos
        obtain ⟨owned, howned, hcount⟩ := howned input.playerId equipment hequipment slot _ hslot
        rw [howned, Option.map_some, Option.getD_some] at hleft
        omega

/-- From empty items and equipment, every equipped item is owned in the number of slots that
hold it, all along a sequence of calls, precisely when each call spares what is equipped. -/
theorem equipped_owned_iff (db : PlayerDb) (hempty : Empty db) (calls : List DrawnCall) :
    services.Along Owned db calls ↔ services.StepsMeet sparesEquipped db calls :=
  Machine.along_iff_stepsMeet (I := Kept) (L := fun _ => True) (fun _ h => h.owned)
    (fun _ _ _ h _ hstep hspares => h.step hstep hspares)
    (fun _ _ _ h _ hstep howned => spares_of_owned h hstep howned)
    (fun _ _ => trivial) hempty.kept

def oneHero : PlayerDb where
  inventory := { inventories := .empty, items := .empty, distinct := nofun }
  players := JsMap.empty.set "p1" emptyEquipment

theorem oneHero_empty : Empty oneHero := by
  refine ⟨rfl, fun playerId equipment hequipment => ?_⟩
  rw [oneHero, JsMap.get_set] at hequipment
  split at hequipment <;> cases hequipment
  rfl

def addSwords (quantity : Int) : DrawnCall :=
  (.addItem ⟨"p1", "sword", "Sword", quantity, none⟩, [.ok "", .ok "i1", .ok "r1"])

def equipSword (slot : EquipmentSlot) : DrawnCall :=
  (.equipItem "p1" slot "sword", [.ok "", .ok "", .ok ""])

def removeSword : DrawnCall := (.removeItem ⟨"p1", "sword", 1⟩, [.ok "", .ok ""])

def soldSword : List DrawnCall := [addSwords 1, equipSword .weapon, removeSword]

theorem removed_while_equipped :
    ¬∀ db, Empty db → ∀ calls, services.Along Owned db calls := by
  intro howned
  have hexec : ((services.exec oneHero soldSword).map fun db =>
      ((db.players.get "p1").map fun equipment => equipment.get .weapon,
        itemAt db.inventory "p1" "sword")) = some (some (some "sword"), none) := by decide
  obtain ⟨db, hdb, hlast⟩ := Option.map_eq_some_iff.mp hexec
  obtain ⟨hworn, hnone⟩ := Prod.mk.inj hlast
  obtain ⟨equipment, hequipment, hslot⟩ := Option.map_eq_some_iff.mp hworn
  obtain ⟨row, hrow, -⟩ := (howned oneHero oneHero_empty soldSword).last hdb "p1" equipment
    hequipment .weapon "sword" hslot
  cases hnone.symm.trans hrow

/-- One of two swords in each hand, and one removed after it has been put away. -/
def putAway : List DrawnCall :=
  [addSwords 2, equipSword .weapon, equipSword .accessory,
    (.unequipItem "p1" .accessory, [.ok "", .ok ""]), removeSword]

theorem putAway_owned :
    (services.exec oneHero putAway).isSome ∧ services.Along Owned oneHero putAway := by
  refine ⟨by decide, (equipped_owned_iff oneHero oneHero_empty putAway).mpr ?_⟩
  refine .cons rfl trivial (.cons rfl ?_ (.cons rfl ?_ (.cons rfl trivial (.cons rfl ?_ trivial))))
  · intro _ row equipment hrow hequipment
    cases hrow
    cases hequipment
    decide
  · intro _ row equipment hrow hequipment
    cases hrow
    cases hequipment
    decide
  · intro _ _ row equipment hrow hequipment _
    cases hrow
    cases hequipment
    decide

end RealtimeGameServer.Guarantees.EquippedOwned
