import RealtimeGameServer.Lib.ReadCommitted
import RealtimeGameServer.Source.Database

/-!
# Adding and removing items

Source: infrastructure/database/prisma-inventory-repository.ts:80-153. Each
operation is a `prisma.$transaction` of a read of the inventory, a read of its
items, and one write whose quantity was computed from what was read; no
statement locks what it reads. A write locks the unique key of its row.

The primary key of an item and its pair of inventory and item key never change
and are unique, so the row with an id is looked for under the key it was read
at. Timestamps are not represented; `metadata` is the text of a JSON object.
-/
namespace RealtimeGameServer.Source
open Lib ReadCommitted

structure AddItemInput where
  playerId : String
  itemKey : String
  name : String
  quantity : Int
  metadata : Option String
  deriving DecidableEq, Repr

structure RemoveItemInput where
  playerId : String
  itemKey : String
  quantity : Int
  deriving DecidableEq, Repr

structure InventoryItemEntity where
  id : String
  inventoryId : String
  itemKey : String
  name : String
  quantity : Int
  metadata : String
  deriving DecidableEq, Repr

structure InventoryRow where
  id : String
  capacity : Nat
  deriving DecidableEq, Repr

/-- A row of `inventory_items` without the columns of its unique key. -/
structure ItemRow where
  id : String
  name : String
  quantity : Int
  metadata : String
  deriving DecidableEq, Repr

/-- Inventories by player and items by inventory and item key, both unique;
inventories of different players are different. -/
structure InventoryDb where
  inventories : JsMap String InventoryRow
  items : JsMap (String × String) ItemRow
  distinct : ∀ p q i j, inventories.get p = some i → inventories.get q = some j → i.id = j.id →
    p = q

namespace Inventory

/-- A call, with the id the database draws if it creates a row. -/
inductive Call where
  | addItem (input : AddItemInput) (rowId : String)
  | removeItem (input : RemoveItemInput)
  deriving DecidableEq, Repr

def Call.playerId : Call → String
  | .addItem input _ => input.playerId
  | .removeItem input => input.playerId

def Call.itemKey : Call → String
  | .addItem input _ => input.itemKey
  | .removeItem input => input.itemKey

def Call.quantity : Call → Int
  | .addItem input _ => input.quantity
  | .removeItem input => input.quantity

/-- Put a row under its key, or delete the one there. -/
structure Effect where
  key : String × String
  row : Option ItemRow
  deriving DecidableEq, Repr

inductive Pc where
  | findInventory (call : Call)
  | findItems (call : Call) (inventory : InventoryRow)
  | update (inventoryId itemKey : String) (existing : ItemRow) (quantity : Int)
  | create (inventoryId : String) (input : AddItemInput) (rowId : String)
  | delete (inventoryId itemKey : String) (existing : ItemRow)
  | finish (result : Option InventoryItemEntity)
  deriving DecidableEq, Repr

def apply (db : InventoryDb) (effect : Effect) : InventoryDb :=
  { db with
    items := match effect.row with
      | none => db.items.delete effect.key
      | some row => db.items.set effect.key row }

def mapItem (inventoryId itemKey : String) (row : ItemRow) : InventoryItemEntity where
  id := row.id
  inventoryId
  itemKey
  name := row.name
  quantity := row.quantity
  metadata := row.metadata

/-- `inventory.items`: item keys and rows. -/
def itemsOf (db : InventoryDb) (inventoryId : String) : List (String × ItemRow) :=
  db.items.entries.filterMap fun e =>
    if e.1.1 = inventoryId then some (e.1.2, e.2) else none

/-- The check before the transaction. -/
def opens (call : Call) : Except Failure Pc :=
  if call.quantity ≤ 0 then .error (.app (.validation "Quantity must be positive"))
  else .ok (.findInventory call)

/-- `addItem` once it has the inventory with its items. -/
def decideAdd (input : AddItemInput) (rowId : String) (inventory : InventoryRow)
    (items : List (String × ItemRow)) : Stmt Effect Pc Failure :=
  match items.lookup input.itemKey with
  | none =>
    if items.length ≥ inventory.capacity then .throws (.app (.conflict "Inventory is full"))
    else .continues [] (.create inventory.id input rowId)
  | some existing =>
    .continues []
      (.update inventory.id input.itemKey existing (existing.quantity + input.quantity))

/-- `removeItem` once it has the inventory with its items. -/
def decideRemove (input : RemoveItemInput) (inventory : InventoryRow)
    (items : List (String × ItemRow)) : Stmt Effect Pc Failure :=
  match items.lookup input.itemKey with
  | none => .throws (.app (.notFound "Inventory item"))
  | some existing =>
    if existing.quantity < input.quantity then
      .throws (.app (.validation "Insufficient item quantity"))
    else if existing.quantity = input.quantity then
      .continues [] (.delete inventory.id input.itemKey existing)
    else
      .continues []
        (.update inventory.id input.itemKey existing (existing.quantity - input.quantity))

/-- The row with the id of `existing`, under the key it was read at. -/
def rowOf (db : InventoryDb) (key : String × String) (existing : ItemRow) : Option ItemRow :=
  (db.items.get key).filter fun row => row.id = existing.id

def needs (pc : Pc) (db : InventoryDb) : List (String × String) :=
  match pc with
  | .update inventoryId itemKey existing _ =>
    ((rowOf db (inventoryId, itemKey) existing).map fun _ => (inventoryId, itemKey)).toList
  | .delete inventoryId itemKey existing =>
    ((rowOf db (inventoryId, itemKey) existing).map fun _ => (inventoryId, itemKey)).toList
  | .create inventoryId input _ => [(inventoryId, input.itemKey)]
  | _ => []

def run (pc : Pc) (db : InventoryDb) : Stmt Effect Pc Failure :=
  match pc with
  | .findInventory call =>
    match db.inventories.get call.playerId with
    | none => .throws (.app (.notFound "Inventory"))
    | some inventory => .continues [] (.findItems call inventory)
  | .findItems (.addItem input rowId) inventory =>
    decideAdd input rowId inventory (itemsOf db inventory.id)
  | .findItems (.removeItem input) inventory =>
    decideRemove input inventory (itemsOf db inventory.id)
  | .update inventoryId itemKey existing quantity =>
    match rowOf db (inventoryId, itemKey) existing with
    | none => .throws .recordNotFound
    | some row =>
      if ¬inInt4 quantity then .throws .valueOutOfRange
      else
        let updated := { row with quantity }
        .continues [⟨(inventoryId, itemKey), some updated⟩]
          (.finish (some (mapItem inventoryId itemKey updated)))
  | .create inventoryId input rowId =>
    match db.items.get (inventoryId, input.itemKey) with
    | some _ => .throws .uniqueViolation
    | none =>
      if ¬inInt4 input.quantity then .throws .valueOutOfRange
      else
        let created : ItemRow := {
          id := rowId
          name := input.name
          quantity := input.quantity
          metadata := input.metadata.getD "\x7b\x7d" }
        .continues [⟨(inventoryId, input.itemKey), some created⟩]
          (.finish (some (mapItem inventoryId input.itemKey created)))
  | .delete inventoryId itemKey existing =>
    match rowOf db (inventoryId, itemKey) existing with
    | none => .throws .recordNotFound
    | some _ => .continues [⟨(inventoryId, itemKey), none⟩] (.finish none)
  | .finish result => .continues [] (.finish result)

def follow : Pc → Follow Pc (Option InventoryItemEntity)
  | .finish result => .commitReturn result
  | _ => .statement

/-- `addItem` and `removeItem` as concurrent transactions. -/
def protocol :
    Protocol InventoryDb Effect (String × String) Call Pc (Option InventoryItemEntity) Failure where
  apply
  opens
  needs
  run
  follow

/-- The item keys of an inventory are read off the keys of the table. -/
theorem itemsOf_keys (db : InventoryDb) (inventoryId : String) :
    (itemsOf db inventoryId).map Prod.fst =
      db.items.keys.filterMap fun key => if key.1 = inventoryId then some key.2 else none := by
  rw [itemsOf, List.map_filterMap, JsMap.keys, List.filterMap_map]
  refine List.filterMap_congr fun e _ => ?_
  dsimp only [Function.comp_apply]
  split <;> rfl

theorem itemsOf_unique (db : InventoryDb) (inventoryId : String) :
    ((itemsOf db inventoryId).map Prod.fst).Nodup := by
  rw [itemsOf_keys]
  refine List.Nodup.filterMap (fun key other itemKey hkey hother => ?_) db.items.unique
  simp only [Option.mem_def, Option.ite_none_right_eq_some, Option.some.injEq] at hkey hother
  exact Prod.ext (hkey.1.trans hother.1.symm) (hkey.2.trans hother.2.symm)

theorem mem_itemsOf {db : InventoryDb} {inventoryId itemKey : String} {row : ItemRow} :
    (itemKey, row) ∈ itemsOf db inventoryId ↔ db.items.get (inventoryId, itemKey) = some row := by
  rw [JsMap.get_eq_some, itemsOf, List.mem_filterMap]
  constructor
  · rintro ⟨e, hmem, he⟩
    obtain ⟨rfl, hpair⟩ := Option.ite_none_right_eq_some.mp he
    cases hpair
    exact hmem
  · exact fun hmem => ⟨_, hmem, if_pos rfl⟩

theorem lookup_itemsOf (db : InventoryDb) (inventoryId itemKey : String) :
    (itemsOf db inventoryId).lookup itemKey = db.items.get (inventoryId, itemKey) := by
  refine Option.ext fun row => ?_
  have hlookup := JsMap.get_eq_some ⟨itemsOf db inventoryId, itemsOf_unique db inventoryId⟩ itemKey row
  exact hlookup.trans mem_itemsOf

theorem get_apply (db : InventoryDb) (effect : Effect) (key : String × String) :
    (apply db effect).items.get key =
      if key = effect.key then effect.row else db.items.get key := by
  unfold apply
  cases effect.row with
  | none => exact JsMap.get_delete _ _ _
  | some row => exact JsMap.get_set _ _ _ _

/-- The effects and the next place of a statement that does not throw. -/
inductive Continues (db : InventoryDb) : Pc → List Effect → Pc → Prop
  | inventoryFound {call inventory} (get : db.inventories.get call.playerId = some inventory) :
      Continues db (.findInventory call) [] (.findItems call inventory)
  | addUpdates {input rowId inventory existing}
      (found : (itemsOf db inventory.id).lookup input.itemKey = some existing) :
      Continues db (.findItems (.addItem input rowId) inventory) []
        (.update inventory.id input.itemKey existing (existing.quantity + input.quantity))
  | addCreates {input rowId inventory}
      (absent : (itemsOf db inventory.id).lookup input.itemKey = none)
      (room : (itemsOf db inventory.id).length < inventory.capacity) :
      Continues db (.findItems (.addItem input rowId) inventory) []
        (.create inventory.id input rowId)
  | removeDeletes {input inventory existing}
      (found : (itemsOf db inventory.id).lookup input.itemKey = some existing)
      (all : existing.quantity = input.quantity) :
      Continues db (.findItems (.removeItem input) inventory) []
        (.delete inventory.id input.itemKey existing)
  | removeUpdates {input inventory existing}
      (found : (itemsOf db inventory.id).lookup input.itemKey = some existing)
      (more : input.quantity < existing.quantity) :
      Continues db (.findItems (.removeItem input) inventory) []
        (.update inventory.id input.itemKey existing (existing.quantity - input.quantity))
  | updated {inventoryId itemKey existing quantity row}
      (found : rowOf db (inventoryId, itemKey) existing = some row) :
      Continues db (.update inventoryId itemKey existing quantity)
        [⟨(inventoryId, itemKey), some { row with quantity }⟩]
        (.finish (some (mapItem inventoryId itemKey { row with quantity })))
  | created {inventoryId input rowId row}
      (absent : db.items.get (inventoryId, input.itemKey) = none)
      (quantity : row.quantity = input.quantity) :
      Continues db (.create inventoryId input rowId) [⟨(inventoryId, input.itemKey), some row⟩]
        (.finish (some (mapItem inventoryId input.itemKey row)))
  | deleted {inventoryId itemKey existing row}
      (found : rowOf db (inventoryId, itemKey) existing = some row) :
      Continues db (.delete inventoryId itemKey existing) [⟨(inventoryId, itemKey), none⟩]
        (.finish none)
  | finished {result} : Continues db (.finish result) [] (.finish result)

theorem decideAdd_continues {db : InventoryDb} {input : AddItemInput} {rowId : String}
    {inventory : InventoryRow} {effects : List Effect} {next : Pc}
    (h : decideAdd input rowId inventory (itemsOf db inventory.id) = .continues effects next) :
    Continues db (.findItems (.addItem input rowId) inventory) effects next := by
  unfold decideAdd at h
  split at h
  next habsent =>
    split at h
    next => cases h
    next hroom =>
      cases h
      exact .addCreates habsent (Nat.lt_of_not_le hroom)
  next existing hfound =>
    cases h
    exact .addUpdates hfound

theorem decideRemove_continues {db : InventoryDb} {input : RemoveItemInput}
    {inventory : InventoryRow} {effects : List Effect} {next : Pc}
    (h : decideRemove input inventory (itemsOf db inventory.id) = .continues effects next) :
    Continues db (.findItems (.removeItem input) inventory) effects next := by
  unfold decideRemove at h
  split at h
  next => cases h
  next existing hfound =>
    split at h
    next => cases h
    next henough =>
      split at h
      next hall =>
        cases h
        exact .removeDeletes hfound hall
      next hmore =>
        cases h
        have hless : input.quantity < existing.quantity := by omega
        exact .removeUpdates hfound hless

theorem run_continues {pc : Pc} {db : InventoryDb} {effects : List Effect} {next : Pc}
    (h : run pc db = .continues effects next) : Continues db pc effects next := by
  cases pc with
  | findInventory call =>
    simp only [run] at h
    split at h
    next => cases h
    next inventory hget =>
      cases h
      exact .inventoryFound hget
  | findItems call inventory =>
    cases call with
    | addItem input rowId => exact decideAdd_continues h
    | removeItem input => exact decideRemove_continues h
  | update inventoryId itemKey existing quantity =>
    simp only [run] at h
    split at h
    next => cases h
    next row hfound =>
      split at h <;> cases h
      exact .updated hfound
  | create inventoryId input rowId =>
    simp only [run] at h
    split at h
    next => cases h
    next habsent =>
      split at h <;> cases h
      exact .created habsent rfl
  | delete inventoryId itemKey existing =>
    simp only [run] at h
    split at h
    next => cases h
    next row hfound =>
      cases h
      exact .deleted hfound
  | finish result =>
    cases h
    exact .finished

end Inventory
end RealtimeGameServer.Source
