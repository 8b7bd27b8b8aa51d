import RealtimeGameServer.Lib.Calls
import RealtimeGameServer.Source.Inventory

/-!
# Items and equipment as calls of the services

Source: application/services/player-service.ts:31-59, application/services/inventory-service.ts,
domain/entities/player.ts:4-11 and 42-54, infrastructure/database/prisma-player-repository.ts:63-66
and 116-122, prisma-inventory-repository.ts. A call runs through places, one for each
repository call it makes. The two inventory transactions are one step here; `addItem_alone`
and `removeItem_alone` say that they are the transactions of Inventory with nothing in
between. Of a player the row keeps its equipment.
-/
namespace RealtimeGameServer.Source
open Lib Calls

inductive EquipmentSlot where
  | weapon | helmet | chest | legs | boots | accessory
  deriving DecidableEq, Repr

/-- `EQUIPMENT_SLOTS`. -/
def equipmentSlots : List EquipmentSlot := [.weapon, .helmet, .chest, .legs, .boots, .accessory]

structure Equipment where
  weapon : Option String
  helmet : Option String
  chest : Option String
  legs : Option String
  boots : Option String
  accessory : Option String
  deriving DecidableEq, Repr

def emptyEquipment : Equipment := ⟨none, none, none, none, none, none⟩

def Equipment.get (equipment : Equipment) : EquipmentSlot → Option String
  | .weapon => equipment.weapon
  | .helmet => equipment.helmet
  | .chest => equipment.chest
  | .legs => equipment.legs
  | .boots => equipment.boots
  | .accessory => equipment.accessory

/-- `undefined` deletes the slot. -/
def setEquipmentSlot (equipment : Equipment) (slot : EquipmentSlot) (itemKey : Option String) :
    Equipment :=
  match slot with
  | .weapon => { equipment with weapon := itemKey }
  | .helmet => { equipment with helmet := itemKey }
  | .chest => { equipment with chest := itemKey }
  | .legs => { equipment with legs := itemKey }
  | .boots => { equipment with boots := itemKey }
  | .accessory => { equipment with accessory := itemKey }

@[simp] theorem get_emptyEquipment (slot : EquipmentSlot) : emptyEquipment.get slot = none := by
  cases slot <;> rfl

theorem get_setEquipmentSlot (equipment : Equipment) (slot other : EquipmentSlot)
    (itemKey : Option String) : (setEquipmentSlot equipment slot itemKey).get other =
      if other = slot then itemKey else equipment.get other := by
  cases slot <;> cases other <;> rfl

theorem mem_equipmentSlots (slot : EquipmentSlot) : slot ∈ equipmentSlots := by
  cases slot <;> decide

/-- The inventories with their items, and the players by id. -/
structure PlayerDb where
  inventory : InventoryDb
  players : JsMap String Equipment

namespace Inventory

def defaultInventoryCapacity : Nat := 40

/-- The row of an inventory, and its items. -/
structure InventoryEntity where
  row : InventoryRow
  items : List (String × ItemRow)
  deriving DecidableEq, Repr

def getByPlayerId (db : InventoryDb) (playerId : String) : Option InventoryEntity :=
  (db.inventories.get playerId).map fun row => ⟨row, itemsOf db row.id⟩

/-- `addItem` with nothing in between. -/
def addItem (db : InventoryDb) (input : AddItemInput) (rowId : String) :
    Except Failure (InventoryDb × Option InventoryItemEntity) :=
  if input.quantity ≤ 0 then .error (.app (.validation "Quantity must be positive"))
  else
    match getByPlayerId db input.playerId with
    | none => .error (.app (.notFound "Inventory"))
    | some inventory =>
      let key := (inventory.row.id, input.itemKey)
      match inventory.items.lookup input.itemKey with
      | none =>
        if inventory.items.length ≥ inventory.row.capacity then
          .error (.app (.conflict "Inventory is full"))
        else if ¬inInt4 input.quantity then .error .valueOutOfRange
        else
          let created : ItemRow := {
            id := rowId
            name := input.name
            quantity := input.quantity
            metadata := input.metadata.getD "\x7b\x7d" }
          .ok (apply db ⟨key, some created⟩, some (mapItem key.1 key.2 created))
      | some existing =>
        let quantity := existing.quantity + input.quantity
        if ¬inInt4 quantity then .error .valueOutOfRange
        else
          let updated := { existing with quantity }
          .ok (apply db ⟨key, some updated⟩, some (mapItem key.1 key.2 updated))

/-- `removeItem` with nothing in between. -/
def removeItem (db : InventoryDb) (input : RemoveItemInput) :
    Except Failure (InventoryDb × Option InventoryItemEntity) :=
  if input.quantity ≤ 0 then .error (.app (.validation "Quantity must be positive"))
  else
    match getByPlayerId db input.playerId with
    | none => .error (.app (.notFound "Inventory"))
    | some inventory =>
      let key := (inventory.row.id, input.itemKey)
      match inventory.items.lookup input.itemKey with
      | none => .error (.app (.notFound "Inventory item"))
      | some existing =>
        if existing.quantity < input.quantity then
          .error (.app (.validation "Insufficient item quantity"))
        else if existing.quantity = input.quantity then .ok (apply db ⟨key, none⟩, none)
        else
          let quantity := existing.quantity - input.quantity
          if ¬inInt4 quantity then .error .valueOutOfRange
          else
            let updated := { existing with quantity }
            .ok (apply db ⟨key, some updated⟩, some (mapItem key.1 key.2 updated))

/-- An inventory with an id that no other has. -/
def insertInventory (db : InventoryDb) (playerId : String) (row : InventoryRow)
    (fresh : ∀ other ∈ db.inventories.values, other.id ≠ row.id) : InventoryDb where
  inventories := db.inventories.set playerId row
  items := db.items
  distinct := by
    have hfresh : ∀ p i, db.inventories.get p = some i → i.id ≠ row.id :=
      fun p i hi => fresh i ((JsMap.mem_values _ _).mpr ⟨p, hi⟩)
    intro p q i j hi hj hid
    rw [JsMap.get_set] at hi hj
    split at hi <;> split at hj
    next hp hq => exact hp.trans hq.symm
    next =>
      cases hi
      exact absurd hid.symm (hfresh q j hj)
    next =>
      cases hj
      exact absurd hid (hfresh p i hi)
    next => exact db.distinct p q i j hi hj hid

/-- The `upsert` of `ensureForPlayer`, which creates the inventory if there is none. -/
def ensureForPlayer (db : InventoryDb) (playerExists : Bool) (playerId rowId : String) :
    Except Failure InventoryDb :=
  match db.inventories.get playerId with
  | some _ => .ok db
  | none =>
    let row : InventoryRow := ⟨rowId, defaultInventoryCapacity⟩
    if fresh : ∀ other ∈ db.inventories.values, other.id ≠ row.id then
      if ¬playerExists then .error .foreignKeyViolation
      else .ok (insertInventory db playerId row fresh)
    else .error .uniqueViolation

end Inventory

namespace PlayerService
open Inventory (getByPlayerId ensureForPlayer)

/-- `PlayerProfile` with the equipment only. -/
structure PlayerProfile where
  id : String
  equipment : Equipment
  deriving DecidableEq, Repr

/-- The calls of `InventoryService` and `PlayerService`. -/
inductive Call where
  | addItem (input : AddItemInput)
  | removeItem (input : RemoveItemInput)
  | equipItem (playerId : String) (slot : EquipmentSlot) (itemKey : String)
  | unequipItem (playerId : String) (slot : EquipmentSlot)
  deriving DecidableEq, Repr

inductive Reply where
  | item (item : Option InventoryItemEntity)
  | profile (player : PlayerProfile)
  deriving DecidableEq, Repr

/-- The repository call a call of the services is at, with what it remembers. -/
inductive Place where
  | addGetByPlayerId (input : AddItemInput)
  | addEnsure (input : AddItemInput)
  | addAddItem (input : AddItemInput)
  | removeGetByPlayerId (input : RemoveItemInput)
  | removeRemoveItem (input : RemoveItemInput)
  | equipGetByPlayerId (playerId : String) (slot : EquipmentSlot) (itemKey : String)
  | equipFindById (playerId : String) (slot : EquipmentSlot) (itemKey : String)
  | unequipFindById (playerId : String) (slot : EquipmentSlot)
  | updateEquipment (playerId : String) (equipment : Equipment)
  deriving DecidableEq, Repr

def invalidSlot : Failure := .app (.validation "Invalid equipment slot")

/-- What runs before the first repository call. -/
def opens : Call → Next Place Reply Failure
  | .addItem input => .goes (.addGetByPlayerId input)
  | .removeItem input => .goes (.removeGetByPlayerId input)
  | .equipItem playerId slot itemKey =>
    if slot ∉ equipmentSlots then .throws invalidSlot
    else .goes (.equipGetByPlayerId playerId slot itemKey)
  | .unequipItem playerId slot =>
    if slot ∉ equipmentSlots then .throws invalidSlot else .goes (.unequipFindById playerId slot)

/-- `findById`. -/
def findById (db : PlayerDb) (playerId : String) : Option PlayerProfile :=
  (db.players.get playerId).map fun equipment => ⟨playerId, equipment⟩

/-- `getProfile`, and what goes on with the profile. -/
def getProfile (db : PlayerDb) (playerId : String) (next : PlayerProfile → Place) :
    Next Place Reply Failure :=
  match findById db playerId with
  | none => .throws (.app (.notFound "Player"))
  | some player => .goes (next player)

/-- An inventory transaction, and the reply with its item. -/
def transacted (db : PlayerDb)
    (result : Except Failure (InventoryDb × Option InventoryItemEntity)) :
    PlayerDb × Next Place Reply Failure :=
  match result with
  | .error failure => (db, .throws failure)
  | .ok (inventory, item) => ({ db with inventory }, .returns (.item item))

/-- A repository call with what the service does with its answer; `rowId` is the id the
database draws if it creates a row. -/
def run (place : Place) (rowId : String) (db : PlayerDb) : PlayerDb × Next Place Reply Failure :=
  match place with
  | .addGetByPlayerId input =>
    match getByPlayerId db.inventory input.playerId with
    | none => (db, .goes (.addEnsure input))
    | some _ => (db, .goes (.addAddItem input))
  | .addEnsure input =>
    match ensureForPlayer db.inventory (db.players.has input.playerId) input.playerId rowId with
    | .error failure => (db, .throws failure)
    | .ok inventory => ({ db with inventory }, .goes (.addAddItem input))
  | .addAddItem input => transacted db (Inventory.addItem db.inventory input rowId)
  | .removeGetByPlayerId input =>
    match getByPlayerId db.inventory input.playerId with
    | none => (db, .throws (.app (.notFound "Inventory")))
    | some _ => (db, .goes (.removeRemoveItem input))
  | .removeRemoveItem input => transacted db (Inventory.removeItem db.inventory input)
  | .equipGetByPlayerId playerId slot itemKey =>
    match getByPlayerId db.inventory playerId with
    | none => (db, .throws (.app (.notFound "Inventory")))
    | some inventory =>
      match inventory.items.lookup itemKey with
      | none => (db, .throws (.app (.notFound "Inventory item")))
      | some _ => (db, .goes (.equipFindById playerId slot itemKey))
  | .equipFindById playerId slot itemKey =>
    (db, getProfile db playerId fun player =>
      .updateEquipment playerId (setEquipmentSlot player.equipment slot (some itemKey)))
  | .unequipFindById playerId slot =>
    (db, getProfile db playerId fun player =>
      .updateEquipment playerId (setEquipmentSlot player.equipment slot none))
  | .updateEquipment playerId equipment =>
    if db.players.has playerId then
      ({ db with players := db.players.set playerId equipment },
        .returns (.profile ⟨playerId, equipment⟩))
    else (db, .throws .recordNotFound)

/-- The services as concurrent calls. -/
def program : Program PlayerDb Call String Place Reply Failure where
  opens call _ := opens call
  run := run

end PlayerService
end RealtimeGameServer.Source
