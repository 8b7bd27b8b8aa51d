import RealtimeGameServer.Source.PlayerService

/-!
# What a whole call of the item services does

A call that runs with nothing in between: what becomes of the items and of the equipment,
and which of its checks or repository calls has failed when nothing does. The two
inventory transactions are tied to the statements of Inventory.
-/
namespace RealtimeGameServer.Source
open Lib

namespace Inventory
open ReadCommitted

/-- The item row of a player's inventory. -/
def itemAt (db : InventoryDb) (playerId itemKey : String) : Option ItemRow :=
  (db.inventories.get playerId).bind fun inventory => db.items.get (inventory.id, itemKey)

theorem getByPlayerId_eq_some {db : InventoryDb} {playerId : String} {inventory : InventoryEntity} :
    getByPlayerId db playerId = some inventory ↔ db.inventories.get playerId = some inventory.row ∧
      inventory.items = itemsOf db inventory.row.id := by
  unfold getByPlayerId
  rw [Option.map_eq_some_iff]
  constructor
  · rintro ⟨row, hrow, rfl⟩
    exact ⟨hrow, rfl⟩
  · rintro ⟨hrow, hitems⟩
    exact ⟨inventory.row, hrow, by rw [← hitems]⟩

/-- The entry that a service finds for an item key is the row of the item. -/
theorem lookup_of_getByPlayerId {db : InventoryDb} {playerId : String} {inventory : InventoryEntity}
    (h : getByPlayerId db playerId = some inventory) (itemKey : String) :
    inventory.items.lookup itemKey = itemAt db playerId itemKey := by
  obtain ⟨hrow, hitems⟩ := getByPlayerId_eq_some.mp h
  rw [hitems, lookup_itemsOf, itemAt, hrow, Option.bind_some]

theorem itemAt_of_getByPlayerId_none {db : InventoryDb} {playerId : String}
    (h : getByPlayerId db playerId = none) (itemKey : String) : itemAt db playerId itemKey = none := by
  rw [itemAt, Option.map_eq_none_iff.mp h, Option.bind_none]

/-- A write to an item of a player changes no other item. -/
theorem itemAt_apply {db : InventoryDb} {playerId itemKey : String} {inventory : InventoryRow}
    (found : db.inventories.get playerId = some inventory) (row : Option ItemRow)
    (player key : String) : itemAt (apply db ⟨(inventory.id, itemKey), row⟩) player key =
      if player = playerId ∧ key = itemKey then row else itemAt db player key := by
  have hinventories : (apply db ⟨(inventory.id, itemKey), row⟩).inventories = db.inventories := rfl
  rw [itemAt, itemAt, hinventories]
  cases hplayer : db.inventories.get player with
  | none =>
    rw [Option.bind_none, Option.bind_none, if_neg]
    rintro ⟨rfl, -⟩
    cases found.symm.trans hplayer
  | some other =>
    rw [Option.bind_some, Option.bind_some, get_apply]
    refine if_congr ?_ rfl rfl
    constructor
    · intro heq
      obtain ⟨hid, hkey⟩ := Prod.mk.inj heq
      exact ⟨db.distinct _ _ _ _ hplayer found hid, hkey⟩
    · rintro ⟨rfl, rfl⟩
      cases found.symm.trans hplayer
      rfl

/-- Every item is in an inventory. -/
def Attached (db : InventoryDb) : Prop :=
  ∀ key row, db.items.get key = some row →
    ∃ playerId inventory, db.inventories.get playerId = some inventory ∧ inventory.id = key.1

theorem Attached.apply {db : InventoryDb} (h : Attached db) {playerId itemKey : String}
    {inventory : InventoryRow} (found : db.inventories.get playerId = some inventory)
    (row : Option ItemRow) : Attached (apply db ⟨(inventory.id, itemKey), row⟩) := by
  intro key row' hget
  by_cases hkey : key = (inventory.id, itemKey)
  · exact ⟨playerId, inventory, found, congrArg Prod.fst hkey.symm⟩
  · rw [get_apply, if_neg hkey] at hget
    exact h key row' hget

/-- A new inventory is empty. -/
theorem itemAt_insertInventory {db : InventoryDb} (h : Attached db) {playerId : String}
    (missing : db.inventories.get playerId = none) {row : InventoryRow}
    (fresh : ∀ other ∈ db.inventories.values, other.id ≠ row.id) (player itemKey : String) :
    itemAt (insertInventory db playerId row fresh) player itemKey = itemAt db player itemKey := by
  have hinventories : (insertInventory db playerId row fresh).inventories =
    db.inventories.set playerId row := rfl
  have hitems : (insertInventory db playerId row fresh).items = db.items := rfl
  rw [itemAt, itemAt, hinventories, hitems, JsMap.get_set]
  split
  next heq =>
    rw [heq, missing, Option.bind_some, Option.bind_none]
    cases hget : db.items.get (row.id, itemKey) with
    | none => rfl
    | some item =>
      obtain ⟨owner, inventory, hinventory, hid⟩ := h _ _ hget
      exact absurd hid (fresh inventory ((JsMap.mem_values _ _).mpr ⟨owner, hinventory⟩))
  next => rfl

/-- The inventories and the answer after a transaction. -/
def settled (db : InventoryDb) :
    Except Failure (InventoryDb × Option InventoryItemEntity) →
      InventoryDb × Except Failure (Option InventoryItemEntity)
  | .ok (db', item) => (db', .ok item)
  | .error failure => (db, .error failure)

theorem rowOf_self {db : InventoryDb} {key : String × String} {row : ItemRow}
    (h : db.items.get key = some row) : rowOf db key row = some row := by
  rw [rowOf, h]
  exact if_pos (decide_eq_true rfl)

theorem alone_findInventory {db : InventoryDb} {call : Call} {inventory : InventoryRow}
    {last : InventoryDb × Except Failure (Option InventoryItemEntity)}
    (found : db.inventories.get call.playerId = some inventory)
    (rest : Alone protocol (.findItems call inventory) [] db last) :
    Alone protocol (.findInventory call) [] db last := by
  have hrun : protocol.run (.findInventory call) db = .continues [] (.findItems call inventory) := by
    simp only [protocol, run, found]
  exact .continues rfl hrun rest

theorem alone_noInventory {db : InventoryDb} {call : Call}
    (missing : db.inventories.get call.playerId = none) :
    Alone protocol (.findInventory call) [] db (db, .error (.app (.notFound "Inventory"))) := by
  have hrun : protocol.run (.findInventory call) db = .throws (.app (.notFound "Inventory")) := by
    simp only [protocol, run, missing]
  exact .throws rfl hrun

theorem alone_update {db : InventoryDb} {inventoryId itemKey : String} {row : ItemRow}
    (found : db.items.get (inventoryId, itemKey) = some row) (quantity : Int) :
    Alone protocol (.update inventoryId itemKey row quantity) [] db
      (settled db (if ¬inInt4 quantity then .error .valueOutOfRange
        else .ok (apply db ⟨(inventoryId, itemKey), some { row with quantity }⟩,
          some (mapItem inventoryId itemKey { row with quantity })))) := by
  have hrun : protocol.run (.update inventoryId itemKey row quantity) db =
      if ¬inInt4 quantity then .throws .valueOutOfRange
      else .continues [⟨(inventoryId, itemKey), some { row with quantity }⟩]
        (.finish (some (mapItem inventoryId itemKey { row with quantity }))) := by
    simp only [protocol, run, rowOf_self found]
  split at hrun
  next hint =>
    rw [if_pos hint]
    exact .throws rfl hrun
  next hint =>
    rw [if_neg hint]
    exact .continues rfl hrun (.commitReturn rfl)

theorem alone_delete {db : InventoryDb} {inventoryId itemKey : String} {row : ItemRow}
    (found : db.items.get (inventoryId, itemKey) = some row) :
    Alone protocol (.delete inventoryId itemKey row) [] db
      (apply db ⟨(inventoryId, itemKey), none⟩, .ok none) := by
  have hrun : protocol.run (.delete inventoryId itemKey row) db =
      .continues [⟨(inventoryId, itemKey), none⟩] (.finish none) := by
    simp only [protocol, run, rowOf_self found]
  exact .continues rfl hrun (.commitReturn rfl)

/-- The row that `addItem` inserts. -/
def createdRow (input : AddItemInput) (rowId : String) : ItemRow where
  id := rowId
  name := input.name
  quantity := input.quantity
  metadata := input.metadata.getD "\x7b\x7d"

theorem alone_create {db : InventoryDb} {inventoryId : String} {input : AddItemInput}
    (absent : db.items.get (inventoryId, input.itemKey) = none) (rowId : String) :
    Alone protocol (.create inventoryId input rowId) [] db
      (settled db (if ¬inInt4 input.quantity then .error .valueOutOfRange
        else .ok (apply db ⟨(inventoryId, input.itemKey), some (createdRow input rowId)⟩,
          some (mapItem inventoryId input.itemKey (createdRow input rowId))))) := by
  have hrun : protocol.run (.create inventoryId input rowId) db =
      if ¬inInt4 input.quantity then .throws .valueOutOfRange
      else .continues [⟨(inventoryId, input.itemKey), some (createdRow input rowId)⟩]
        (.finish (some (mapItem inventoryId input.itemKey (createdRow input rowId)))) := by
    simp only [protocol, run, absent, createdRow]
  split at hrun
  next hint =>
    rw [if_pos hint]
    exact .throws rfl hrun
  next hint =>
    rw [if_neg hint]
    exact .continues rfl hrun (.commitReturn rfl)

/-- `addItem` is the statements of its transaction with nothing in between. -/
theorem addItem_alone (db : InventoryDb) (input : AddItemInput) (rowId : String) :
    ∃ events, (machine protocol).exec (start db) events =
      some (onlyEnded (.addItem input rowId) (settled db (addItem db input rowId))) := by
  apply exec_alone
  by_cases hpositive : input.quantity ≤ 0
  · refine Or.inr ⟨_, if_pos hpositive, ?_⟩
    rw [addItem, if_pos hpositive]
    rfl
  · refine Or.inl ⟨.findInventory (.addItem input rowId), if_neg hpositive, ?_⟩
    rw [addItem, if_neg hpositive, getByPlayerId]
    cases hinventory : db.inventories.get input.playerId with
    | none => exact alone_noInventory hinventory
    | some inventory =>
      refine alone_findInventory hinventory ?_
      have hrun : protocol.run (.findItems (.addItem input rowId) inventory) db =
        decideAdd input rowId inventory (itemsOf db inventory.id) := rfl
      have hlookup := lookup_itemsOf db inventory.id input.itemKey
      cases hitem : db.items.get (inventory.id, input.itemKey) with
      | none =>
        simp only [decideAdd, hlookup, hitem] at hrun
        simp only [Option.map_some, hlookup, hitem]
        split at hrun
        next hfull =>
          rw [if_pos hfull]
          exact .throws rfl hrun
        next hroom =>
          rw [if_neg hroom]
          exact .continues rfl hrun (alone_create hitem rowId)
      | some existing =>
        simp only [decideAdd, hlookup, hitem] at hrun
        simp only [Option.map_some, hlookup, hitem]
        exact .continues rfl hrun (alone_update hitem _)

/-- `removeItem` is the statements of its transaction with nothing in between. -/
theorem removeItem_alone (db : InventoryDb) (input : RemoveItemInput) :
    ∃ events, (machine protocol).exec (start db) events =
      some (onlyEnded (.removeItem input) (settled db (removeItem db input))) := by
  apply exec_alone
  by_cases hpositive : input.quantity ≤ 0
  · refine Or.inr ⟨_, if_pos hpositive, ?_⟩
    rw [removeItem, if_pos hpositive]
    rfl
  · refine Or.inl ⟨.findInventory (.removeItem input), if_neg hpositive, ?_⟩
    rw [removeItem, if_neg hpositive, getByPlayerId]
    cases hinventory : db.inventories.get input.playerId with
    | none => exact alone_noInventory hinventory
    | some inventory =>
      refine alone_findInventory hinventory ?_
      have hrun : protocol.run (.findItems (.removeItem input) inventory) db =
        decideRemove input inventory (itemsOf db inventory.id) := rfl
      have hlookup := lookup_itemsOf db inventory.id input.itemKey
      cases hitem : db.items.get (inventory.id, input.itemKey) with
      | none =>
        simp only [decideRemove, hlookup, hitem] at hrun
        simp only [Option.map_some, hlookup, hitem]
        exact .throws rfl hrun
      | some existing =>
        simp only [decideRemove, hlookup, hitem] at hrun
        simp only [Option.map_some, hlookup, hitem]
        split at hrun
        next hless =>
          rw [if_pos hless]
          exact .throws rfl hrun
        next henough =>
          rw [if_neg henough]
          split at hrun
          next hall =>
            rw [if_pos hall]
            exact .continues rfl hrun (alone_delete hitem)
          next hmore =>
            rw [if_neg hmore]
            exact .continues rfl hrun (alone_update hitem _)

/-- What `addItem` has done: the quantity of the item is the old one, if there was one,
and that of the call together. -/
theorem addItem_eq_ok {db db' : InventoryDb} {input : AddItemInput} {rowId : String}
    {item : Option InventoryItemEntity} (h : addItem db input rowId = .ok (db', item)) :
    ∃ inventory row, db.inventories.get input.playerId = some inventory ∧
      db' = apply db ⟨(inventory.id, input.itemKey), some row⟩ ∧ 0 < input.quantity ∧
      inInt4 row.quantity ∧ row.quantity =
        ((itemAt db input.playerId input.itemKey).map ItemRow.quantity).getD 0 + input.quantity := by
  unfold addItem at h
  split at h
  next => cases h
  next hpositive =>
    split at h
    next => cases h
    next inventory hinventory =>
      have hlookup := lookup_of_getByPlayerId hinventory input.itemKey
      have hfound := (getByPlayerId_eq_some.mp hinventory).1
      dsimp only at h
      split at h
      next hnone =>
        split at h
        next => cases h
        next =>
          split at h
          next => cases h
          next hint =>
            cases h
            refine ⟨inventory.row, _, hfound, rfl, by omega, not_not.mp hint, ?_⟩
            rw [← hlookup, hnone]
            exact (Int.zero_add _).symm
      next existing hexisting =>
        split at h
        next => cases h
        next hint =>
          cases h
          refine ⟨inventory.row, _, hfound, rfl, by omega, not_not.mp hint, ?_⟩
          rw [← hlookup, hexisting]
          rfl

/-- What `removeItem` has done: the quantity of the item is less by that of the call, and
the row is gone when nothing is left. -/
theorem removeItem_eq_ok {db db' : InventoryDb} {input : RemoveItemInput}
    {item : Option InventoryItemEntity} (h : removeItem db input = .ok (db', item)) :
    ∃ inventory row, db.inventories.get input.playerId = some inventory ∧
      itemAt db input.playerId input.itemKey = some row ∧ 0 < input.quantity ∧
      input.quantity ≤ row.quantity ∧
      db' = apply db ⟨(inventory.id, input.itemKey),
        if row.quantity = input.quantity then none
        else some { row with quantity := row.quantity - input.quantity }⟩ := by
  unfold removeItem at h
  split at h
  next => cases h
  next hpositive =>
    split at h
    next => cases h
    next inventory hinventory =>
      have hlookup := lookup_of_getByPlayerId hinventory input.itemKey
      have hfound := (getByPlayerId_eq_some.mp hinventory).1
      dsimp only at h
      split at h
      next => cases h
      next row hrow =>
        refine ⟨inventory.row, row, hfound, hlookup.symm.trans hrow, by omega, ?_⟩
        split at h
        next => cases h
        next henough =>
          refine ⟨by omega, ?_⟩
          split at h
          next hall =>
            cases h
            rw [if_pos hall]
          next hmore =>
            split at h
            next => cases h
            next =>
              cases h
              rw [if_neg hmore]

/-- Why `removeItem` rejects. -/
theorem removeItem_eq_error {db : InventoryDb} {input : RemoveItemInput} {failure : Failure}
    (h : removeItem db input = .error failure) {row : ItemRow}
    (hrow : itemAt db input.playerId input.itemKey = some row) (hpositive : 0 < input.quantity)
    (henough : input.quantity ≤ row.quantity) : ¬inInt4 (row.quantity - input.quantity) := by
  unfold removeItem at h
  rw [if_neg (by omega)] at h
  split at h
  next hnone => cases (itemAt_of_getByPlayerId_none hnone _).symm.trans hrow
  next inventory hinventory =>
    rw [lookup_of_getByPlayerId hinventory, hrow] at h
    dsimp only at h
    rw [if_neg (by omega)] at h
    split at h
    next => cases h
    next =>
      split at h
      next hint => exact hint
      next => cases h

end Inventory

namespace PlayerService
open Calls
open Inventory

/-- A repository call was rejected by the database. -/
def Rejected (draws : List (Except Failure String)) : Prop := ∃ failure, .error failure ∈ draws

theorem rejected_cons {rowId : String} {rest : List (Except Failure String)} :
    Rejected (.ok rowId :: rest) ↔ Rejected rest := by
  simp [Rejected]

theorem not_rejected_nil : ¬Rejected [] := by
  simp [Rejected]

theorem rejected_singleton (failure : Failure) : Rejected [.error failure] :=
  ⟨failure, List.mem_singleton.mpr rfl⟩

/-- From the read of the profile on. -/
theorem finish_update {db db' : PlayerDb} {place : Place} {playerId : String}
    (edit : Equipment → Equipment) {draws : List (Except Failure String)}
    {result : Except Failure Reply}
    (hrun : ∀ rowId, program.run place rowId db = (db, getProfile db playerId fun player =>
      .updateEquipment playerId (edit player.equipment)))
    (h : finish program (.goes place) draws db = some (db', result)) :
    db' = db ∧ (db.players.get playerId = none ∨ Rejected draws) ∨
      ∃ equipment, db.players.get playerId = some equipment ∧ ¬Rejected draws ∧
        db' = { db with players := db.players.set playerId (edit equipment) } := by
  rcases finish_goes h with ⟨failure, rfl, rfl, -⟩ | ⟨rowId, rest, rfl, hread⟩
  · exact Or.inl ⟨rfl, Or.inr (rejected_singleton failure)⟩
  rw [hrun] at hread
  cases hplayer : db.players.get playerId with
  | none =>
    simp only [getProfile, findById, hplayer, Option.map_none] at hread
    exact Or.inl ⟨(finish_throws hread).2.1, Or.inl rfl⟩
  | some equipment =>
    simp only [getProfile, findById, hplayer, Option.map_some] at hread
    rcases finish_goes hread with ⟨failure, rfl, rfl, -⟩ | ⟨rowId', rest', rfl, hwrite⟩
    · exact Or.inl ⟨rfl, Or.inr (rejected_cons.mpr (rejected_singleton failure))⟩
    · have hwritten : program.run (.updateEquipment playerId (edit equipment)) rowId' db =
          ({ db with players := db.players.set playerId (edit equipment) },
            .returns (.profile ⟨playerId, edit equipment⟩)) := by
        simp only [program, run, JsMap.has, hplayer, Option.isSome_some, if_true]
      rw [hwritten] at hwrite
      obtain ⟨rfl, rfl, -⟩ := finish_returns hwrite
      refine Or.inr ⟨equipment, rfl, ?_, rfl⟩
      rw [rejected_cons, rejected_cons]
      exact not_rejected_nil

/-- What `unequipItem` has done. -/
theorem unequipItem_cases {db db' : PlayerDb} {playerId : String} {slot : EquipmentSlot}
    {draws : List (Except Failure String)} {result : Except Failure Reply}
    (h : finish program (opens (.unequipItem playerId slot)) draws db = some (db', result)) :
    db' = db ∨ ∃ equipment, db.players.get playerId = some equipment ∧
      db' = { db with players := db.players.set playerId (setEquipmentSlot equipment slot none) } := by
  rw [opens, if_neg (not_not.mpr (mem_equipmentSlots slot))] at h
  have hedit := finish_update (fun equipment => setEquipmentSlot equipment slot none)
    (fun _ => rfl) h
  rcases hedit with ⟨hsame, -⟩ | ⟨equipment, hget, -, hset⟩
  · exact Or.inl hsame
  · exact Or.inr ⟨equipment, hget, hset⟩

/-- What `equipItem` has done, and which of its checks failed when it has done nothing. -/
theorem equipItem_cases {db db' : PlayerDb} {playerId : String} {slot : EquipmentSlot}
    {itemKey : String} {draws : List (Except Failure String)} {result : Except Failure Reply}
    (h : finish program (opens (.equipItem playerId slot itemKey)) draws db = some (db', result)) :
    db' = db ∧ (itemAt db.inventory playerId itemKey = none ∨ db.players.get playerId = none ∨
        Rejected draws) ∨
      ∃ row equipment, itemAt db.inventory playerId itemKey = some row ∧
        db.players.get playerId = some equipment ∧ ¬Rejected draws ∧
        db' = { db with
          players := db.players.set playerId (setEquipmentSlot equipment slot (some itemKey)) } := by
  rw [opens, if_neg (not_not.mpr (mem_equipmentSlots slot))] at h
  rcases finish_goes h with ⟨failure, rfl, rfl, -⟩ | ⟨rowId, rest, rfl, hread⟩
  · exact Or.inl ⟨rfl, Or.inr (Or.inr (rejected_singleton failure))⟩
  cases hinventory : getByPlayerId db.inventory playerId with
  | none =>
    have hnone := itemAt_of_getByPlayerId_none hinventory itemKey
    simp only [program, run, hinventory] at hread
    exact Or.inl ⟨(finish_throws hread).2.1, Or.inl hnone⟩
  | some inventory =>
    have hlookup := lookup_of_getByPlayerId hinventory itemKey
    cases hitem : itemAt db.inventory playerId itemKey with
    | none =>
      simp only [program, run, hinventory, hlookup, hitem] at hread
      exact Or.inl ⟨(finish_throws hread).2.1, Or.inl rfl⟩
    | some row =>
      simp only [program, run, hinventory, hlookup, hitem] at hread
      rw [rejected_cons]
      have hedit := finish_update (fun equipment => setEquipmentSlot equipment slot (some itemKey))
        (fun _ => rfl) hread
      rcases hedit with ⟨hsame, hwhy⟩ | ⟨equipment, hget, hok, hset⟩
      · exact Or.inl ⟨hsame, Or.inr hwhy⟩
      · exact Or.inr ⟨row, equipment, rfl, hget, hok, hset⟩

/-- What `removeItem` has done, and which of its checks failed when it has done nothing. -/
theorem removeItem_cases {db db' : PlayerDb} {input : RemoveItemInput}
    {draws : List (Except Failure String)} {result : Except Failure Reply}
    (h : finish program (opens (.removeItem input)) draws db = some (db', result)) :
    db' = db ∧ (Rejected draws ∨
        ∃ failure, Inventory.removeItem db.inventory input = .error failure) ∨
      ∃ inventory item, Inventory.removeItem db.inventory input = .ok (inventory, item) ∧
        ¬Rejected draws ∧ db' = { db with inventory } := by
  rcases finish_goes h with ⟨failure, rfl, rfl, -⟩ | ⟨rowId, rest, rfl, hread⟩
  · exact Or.inl ⟨rfl, Or.inl (rejected_singleton failure)⟩
  rw [rejected_cons]
  cases hremove : Inventory.removeItem db.inventory input with
  | error failure =>
    refine Or.inl ⟨?_, Or.inr ⟨failure, rfl⟩⟩
    cases hinventory : getByPlayerId db.inventory input.playerId with
    | none =>
      simp only [program, run, hinventory] at hread
      exact (finish_throws hread).2.1
    | some inventory =>
      simp only [program, run, hinventory] at hread
      rcases finish_goes hread with ⟨-, -, rfl, -⟩ | ⟨rowId', rest', rfl, hwrite⟩
      · rfl
      · simp only [run, hremove, transacted] at hwrite
        exact (finish_throws hwrite).2.1
  | ok pair =>
    obtain ⟨found, -, hfound, -⟩ := removeItem_eq_ok hremove
    have hinventory : getByPlayerId db.inventory input.playerId =
        some ⟨found, itemsOf db.inventory found.id⟩ := getByPlayerId_eq_some.mpr ⟨hfound, rfl⟩
    simp only [program, run, hinventory] at hread
    rcases finish_goes hread with ⟨failure, rfl, rfl, -⟩ | ⟨rowId', rest', rfl, hwrite⟩
    · exact Or.inl ⟨rfl, Or.inl (rejected_singleton failure)⟩
    · simp only [run, hremove, transacted] at hwrite
      obtain ⟨rfl, rfl, -⟩ := finish_returns hwrite
      rw [rejected_cons]
      exact Or.inr ⟨pair.1, pair.2, rfl, not_rejected_nil, rfl⟩

/-- The inventories after `getInventory`, which creates the one that is missing. -/
inductive Ensured (db : InventoryDb) (playerId : String) : InventoryDb → Prop
  | present : Ensured db playerId db
  | created {row} (missing : db.inventories.get playerId = none)
      (fresh : ∀ other ∈ db.inventories.values, other.id ≠ row.id) :
      Ensured db playerId (insertInventory db playerId row fresh)

theorem ensured_of_ok {db db' : InventoryDb} {playerExists : Bool} {playerId rowId : String}
    (h : ensureForPlayer db playerExists playerId rowId = .ok db') : Ensured db playerId db' := by
  unfold ensureForPlayer at h
  split at h
  next =>
    cases h
    exact .present
  next hmissing =>
    dsimp only at h
    split at h
    next fresh =>
      split at h
      next => cases h
      next =>
        cases h
        exact .created hmissing fresh
    next => cases h

/-- From the transaction of `addItem` on. -/
theorem finish_addItem {db db' : PlayerDb} {input : AddItemInput}
    {draws : List (Except Failure String)} {result : Except Failure Reply}
    (h : finish program (.goes (.addAddItem input)) draws db = some (db', result)) :
    db' = db ∨ ∃ rowId inventory item,
      Inventory.addItem db.inventory input rowId = .ok (inventory, item) ∧
      db' = { db with inventory } := by
  rcases finish_goes h with ⟨-, -, rfl, -⟩ | ⟨rowId, rest, rfl, hadd⟩
  · exact Or.inl rfl
  cases hadded : Inventory.addItem db.inventory input rowId with
  | error failure =>
    simp only [program, run, hadded, transacted] at hadd
    exact Or.inl (finish_throws hadd).2.1
  | ok pair =>
    simp only [program, run, hadded, transacted] at hadd
    exact Or.inr ⟨rowId, pair.1, pair.2, hadded, (finish_returns hadd).2.1⟩

/-- What `addItem` has done. -/
theorem addItem_cases {db db' : PlayerDb} {input : AddItemInput}
    {draws : List (Except Failure String)} {result : Except Failure Reply}
    (h : finish program (opens (.addItem input)) draws db = some (db', result)) :
    ∃ ensured, Ensured db.inventory input.playerId ensured ∧
      (db' = { db with inventory := ensured } ∨ ∃ rowId inventory item,
        Inventory.addItem ensured input rowId = .ok (inventory, item) ∧
        db' = { db with inventory }) := by
  rcases finish_goes h with ⟨-, -, rfl, -⟩ | ⟨rowId, rest, rfl, hread⟩
  · exact ⟨_, .present, Or.inl rfl⟩
  cases hinventory : getByPlayerId db.inventory input.playerId with
  | some inventory =>
    simp only [program, run, hinventory] at hread
    exact ⟨_, .present, finish_addItem hread⟩
  | none =>
    simp only [program, run, hinventory] at hread
    rcases finish_goes hread with ⟨-, -, rfl, -⟩ | ⟨rowId', rest', rfl, hensure⟩
    · exact ⟨_, .present, Or.inl rfl⟩
    cases hensured : ensureForPlayer db.inventory (db.players.has input.playerId) input.playerId
        rowId' with
    | error failure =>
      simp only [run, hensured] at hensure
      exact ⟨_, .present, Or.inl (finish_throws hensure).2.1⟩
    | ok ensured =>
      simp only [run, hensured] at hensure
      exact ⟨ensured, ensured_of_ok hensured, finish_addItem hensure⟩

end PlayerService
end RealtimeGameServer.Source
