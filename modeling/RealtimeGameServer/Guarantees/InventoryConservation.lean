import Mathlib.Algebra.BigOperators.Group.List.Basic
import Mathlib.Algebra.Ring.Int.Defs
import RealtimeGameServer.Source.Inventory

/-!
# Conservation of item quantities

A write stores a quantity computed from an earlier read, and nothing keeps
others from changing the row in between. In runs in which the row still holds
the quantity that was read when the write runs, the stored quantities are the
initial ones plus what the successful `addItem` calls added, minus what the
successful `removeItem` calls took. Two overlapping additions are enough to lose
one.
-/
namespace RealtimeGameServer.Guarantees.InventoryConservation
open Lib ReadCommitted Source Source.Inventory

/-- The stored quantity of an item key, 0 when the row is absent. -/
def quantityAt (db : InventoryDb) (key : String × String) : Int :=
  ((db.items.get key).map ItemRow.quantity).getD 0

/-- What a successful call adds to the quantity of its item. -/
def delta : Call → Int
  | .addItem input _ => input.quantity
  | .removeItem input => -input.quantity

/-- What a call adds to the quantity of one player's item. -/
def deltaOf (playerId itemKey : String) (call : Call) : Int :=
  if call.playerId = playerId ∧ call.itemKey = itemKey then delta call else 0

/-- What the calls that returned have added to one player's item. -/
def total (playerId itemKey : String)
    (log : List (Nat × Call × Option InventoryItemEntity)) : Int :=
  (log.map fun entry => deltaOf playerId itemKey entry.2.1).sum

/-- The inventories are the initial ones and every quantity is the initial one
plus what has been added by the calls that returned. -/
structure Conserved (initial db : InventoryDb)
    (log : List (Nat × Call × Option InventoryItemEntity)) : Prop where
  inventories : db.inventories = initial.inventories
  quantity : ∀ playerId inventory itemKey,
    initial.inventories.get playerId = some inventory →
    quantityAt db (inventory.id, itemKey) =
      quantityAt initial (inventory.id, itemKey) + total playerId itemKey log

/-- The row a call is about to update or delete still holds the quantity the
call read. -/
def ReadHolds (a : Active Effect (String × String) Call Pc) (db : InventoryDb) : Prop :=
  match a.pc with
  | .update inventoryId itemKey existing _ => ∀ row,
      rowOf db (inventoryId, itemKey) existing = some row → row.quantity = existing.quantity
  | .delete inventoryId itemKey existing => ∀ row,
      rowOf db (inventoryId, itemKey) existing = some row → row.quantity = existing.quantity
  | _ => True

/-- The inventory and item key are those of the call. -/
def Addresses (initial : InventoryDb) (call : Call) (key : String × String) : Prop :=
  key.2 = call.itemKey ∧
    ∃ inventory, initial.inventories.get call.playerId = some inventory ∧ inventory.id = key.1

/-- What holds at each place of a call. Only the last one depends on the state,
through the row the call has locked. -/
def Knows (initial : InventoryDb) (a : Active Effect (String × String) Call Pc)
    (db : InventoryDb) : Prop :=
  match a.pc with
  | .findInventory call => a.pending = [] ∧ call = a.call
  | .findItems call inventory => a.pending = [] ∧ call = a.call ∧
      initial.inventories.get a.call.playerId = some inventory
  | .update inventoryId itemKey existing quantity => a.pending = [] ∧
      Addresses initial a.call (inventoryId, itemKey) ∧ quantity = existing.quantity + delta a.call
  | .create inventoryId input _ => a.pending = [] ∧
      Addresses initial a.call (inventoryId, input.itemKey) ∧ input.quantity = delta a.call
  | .delete inventoryId itemKey existing => a.pending = [] ∧
      Addresses initial a.call (inventoryId, itemKey) ∧ existing.quantity + delta a.call = 0
  | .finish _ => ∃ effect : Effect, a.pending = [effect] ∧ effect.key ∈ a.held ∧
      Addresses initial a.call effect.key ∧
      (effect.row.map ItemRow.quantity).getD 0 = quantityAt db effect.key + delta a.call

/-- The row under a key, what the key's lock protects. -/
def rowAt (key : String × String) (db : InventoryDb) : Option ItemRow := db.items.get key

theorem guarded : Guarded protocol Effect.key rowAt where
  frame := by
    intro db effect key hne
    rw [rowAt, rowAt, show protocol.apply = apply from rfl, get_apply, if_neg (Ne.symm hne)]
  locked := by
    intro pc db effects next hrun effect heffect
    cases run_continues hrun with
    | updated found =>
      rw [List.mem_singleton.mp heffect]
      simp [protocol, needs, found]
    | created absent =>
      rw [List.mem_singleton.mp heffect]
      simp [protocol, needs]
    | deleted found =>
      rw [List.mem_singleton.mp heffect]
      simp [protocol, needs, found]
    | _ => cases heffect

theorem quantityAt_apply (db : InventoryDb) (effect : Effect) (key : String × String) :
    quantityAt (apply db effect) key =
      if key = effect.key then (effect.row.map ItemRow.quantity).getD 0 else quantityAt db key := by
  rw [quantityAt, get_apply]
  split <;> rfl

theorem quantityAt_of_rowOf {db : InventoryDb} {key : String × String} {existing row : ItemRow}
    (h : rowOf db key existing = some row) : quantityAt db key = row.quantity := by
  rw [quantityAt, (Option.filter_eq_some_iff.mp h).1]
  rfl

theorem total_append (playerId itemKey : String)
    (log : List (Nat × Call × Option InventoryItemEntity)) (number : Nat) (call : Call)
    (result : Option InventoryItemEntity) :
    total playerId itemKey (log ++ [(number, call, result)]) =
      total playerId itemKey log + deltaOf playerId itemKey call := by
  simp [total]

/-- A statement brings a call to its next place with what it knows there. -/
theorem Knows.ran {initial db : InventoryDb}
    {log : List (Nat × Call × Option InventoryItemEntity)}
    {a : Active Effect (String × String) Call Pc} {effects : List Effect} {next : Pc}
    (hdb : Conserved initial db log) (h : Knows initial a db) (hok : ReadHolds a db)
    (hrun : run a.pc (protocol.view a db) = .continues effects next) :
    Knows initial ⟨a.call, next, a.pending ++ effects,
      a.held ++ protocol.needs a.pc (protocol.view a db)⟩ db := by
  obtain ⟨call, pc, pending, held⟩ := a
  have hcontinues := run_continues hrun
  cases pc with
  | findInventory call' =>
    obtain ⟨rfl, rfl⟩ := h
    cases hcontinues with
    | inventoryFound get =>
      have hget : initial.inventories.get call'.playerId = _ := hdb.inventories ▸ get
      exact ⟨rfl, rfl, hget⟩
  | findItems call' inventory =>
    obtain ⟨rfl, rfl, hget⟩ := h
    have haddresses : Addresses initial call' (inventory.id, call'.itemKey) :=
      ⟨rfl, inventory, hget, rfl⟩
    cases hcontinues with
    | addUpdates found => exact ⟨rfl, haddresses, rfl⟩
    | addCreates absent room => exact ⟨rfl, haddresses, rfl⟩
    | @removeDeletes input _ existing found all =>
      have hzero : existing.quantity + -input.quantity = 0 := by omega
      exact ⟨rfl, haddresses, hzero⟩
    | removeUpdates found more => exact ⟨rfl, haddresses, rfl⟩
  | update inventoryId itemKey existing quantity =>
    obtain ⟨rfl, haddresses, hquantity⟩ := h
    cases hcontinues with
    | @updated _ _ _ _ row found =>
      change rowOf db (inventoryId, itemKey) existing = some row at found
      have hread : quantityAt db (inventoryId, itemKey) = existing.quantity :=
        (quantityAt_of_rowOf found).trans (hok row found)
      refine ⟨_, rfl, ?_, haddresses, ?_⟩
      · simp [protocol, needs, Protocol.view, found]
      · rw [hread]
        exact hquantity
  | create inventoryId input rowId =>
    obtain ⟨rfl, haddresses, hquantity⟩ := h
    cases hcontinues with
    | @created _ _ _ row absent quantity =>
      change db.items.get (inventoryId, input.itemKey) = none at absent
      have hread : quantityAt db (inventoryId, input.itemKey) = 0 := by
        rw [quantityAt, absent]
        rfl
      refine ⟨_, rfl, ?_, haddresses, ?_⟩
      · simp [protocol, needs]
      · rw [hread, zero_add]
        exact quantity.trans hquantity
  | delete inventoryId itemKey existing =>
    obtain ⟨rfl, haddresses, hquantity⟩ := h
    cases hcontinues with
    | @deleted _ _ _ row found =>
      change rowOf db (inventoryId, itemKey) existing = some row at found
      have hread : quantityAt db (inventoryId, itemKey) = existing.quantity :=
        (quantityAt_of_rowOf found).trans (hok row found)
      refine ⟨_, rfl, ?_, haddresses, ?_⟩
      · simp [protocol, needs, Protocol.view, found]
      · rw [hread]
        exact hquantity.symm
  | finish result =>
    cases hcontinues
    obtain ⟨effect, hpending, hheld, haddresses, hquantity⟩ := h
    exact ⟨effect, (List.append_nil _).trans hpending, List.mem_append_left _ hheld, haddresses,
      hquantity⟩

/-- The commit of a call moves its item's quantity by its amount, and no other. -/
theorem Knows.returned {initial db : InventoryDb}
    {log : List (Nat × Call × Option InventoryItemEntity)}
    {a : Active Effect (String × String) Call Pc} {result : Option InventoryItemEntity}
    (hdb : Conserved initial db log) (h : Knows initial a db) (number : Nat)
    (hfollow : follow a.pc = .commitReturn result) :
    Conserved initial (protocol.view a db) (log ++ [(number, a.call, result)]) := by
  obtain ⟨call, pc, pending, held⟩ := a
  cases pc with
  | finish result' =>
    obtain ⟨effect, rfl, -, ⟨hkey, inventory, hget, hid⟩, hquantity⟩ := h
    constructor
    case inventories => exact hdb.inventories
    case quantity =>
      intro playerId inventory' itemKey hget'
      rw [total_append, ← add_assoc, ← hdb.quantity playerId inventory' itemKey hget']
      change quantityAt (apply db effect) _ = _
      rw [quantityAt_apply]
      by_cases hsame : call.playerId = playerId ∧ call.itemKey = itemKey
      · obtain ⟨rfl, rfl⟩ := hsame
        cases hget.symm.trans hget'
        have heq : (inventory.id, call.itemKey) = effect.key := Prod.ext hid hkey.symm
        rw [if_pos heq, hquantity, heq, deltaOf, if_pos ⟨rfl, rfl⟩]
      · -- another player has another inventory, another item another key
        have hne : (inventory'.id, itemKey) ≠ effect.key := by
          intro heq
          have hitem : call.itemKey = itemKey := hkey.symm.trans (congrArg Prod.snd heq).symm
          have hinventory : inventory.id = inventory'.id :=
            hid.trans (congrArg Prod.fst heq).symm
          have hplayer := initial.distinct _ _ _ _ hget hget' hinventory
          exact hsame ⟨hplayer, hitem⟩
        rw [if_neg hne, deltaOf, if_neg hsame, add_zero]
  | _ => cases hfollow

theorem rule (initial : InventoryDb) :
    Rule protocol rowAt (Conserved initial) (Knows initial) ReadHolds where
  frame := by
    rintro ⟨call, pc, pending, held⟩ db db' hparts h
    cases pc with
    | finish result =>
      obtain ⟨effect, hpending, hheld, haddresses, hquantity⟩ := h
      refine ⟨effect, hpending, hheld, haddresses, ?_⟩
      have hrow : db'.items.get effect.key = db.items.get effect.key := hparts effect.key hheld
      rw [hquantity, quantityAt, quantityAt, hrow]
    | _ => exact h
  opened := by
    intro call pc db hopens
    change opens call = _ at hopens
    unfold opens at hopens
    split at hopens <;> cases hopens
    exact ⟨rfl, rfl⟩
  ran _ _ _ _ _ hdb h hok hrun := h.ran hdb hok hrun
  proceeded := by
    rintro ⟨call, pc, pending, held⟩ db log next - - hfollow
    cases pc <;> cases hfollow
  returned _ _ _ number _ hdb h hfollow := h.returned hdb number hfollow

/-- In a run in which every update and delete finds its row with the quantity
its call read, in every committed state each quantity is the initial one plus
the amounts of the `addItem` calls that returned minus those of the `removeItem`
calls that returned. -/
theorem quantities_conserved (initial : InventoryDb) (events : List (ReadCommitted.Event Call Failure))
    (hold : (machine protocol).StepsMeet (StatementOk ReadHolds) (start initial) events) :
    (machine protocol).Along (fun s => Conserved initial s.committed s.succeeded)
      (start initial) events :=
  (along_of_rule guarded (rule initial) ⟨rfl, fun _ _ _ _ => by simp [total]⟩ events hold).mono
    fun _ h => h.globally

def sword : AddItemInput where
  playerId := "p1"
  itemKey := "sword"
  name := "Sword"
  quantity := 1
  metadata := none

/-- One player with one sword. -/
def oneSword : InventoryDb where
  inventories := JsMap.empty.set "p1" ⟨"i1", 40⟩
  items := JsMap.empty.set ("i1", "sword") ⟨"r1", "Sword", 1, "\x7b\x7d"⟩
  distinct := by
    intro p q i j hp hq _
    have hone : ∀ k v, (JsMap.empty.set "p1" (⟨"i1", 40⟩ : InventoryRow)).get k = some v →
        k = "p1" := by
      intro k v hk
      rw [JsMap.get_set] at hk
      split at hk
      next heq => exact heq
      next => cases hk
    rw [hone p i hp, hone q j hq]

/-- Both calls read before either writes. -/
def overlap : List (ReadCommitted.Event Call Failure) :=
  [.call (.addItem sword "r2"), .call (.addItem sword "r3"),
    .statement 0, .statement 0, .statement 1, .statement 1,
    .statement 0, .commit 0, .statement 1, .commit 1]

theorem overlap_result :
    ((machine protocol).exec (start oneSword) overlap).map
      (fun s => (quantityAt s.committed ("i1", "sword"), total "p1" "sword" s.succeeded,
        s.active.keys)) = some (2, 2, []) := rfl

/-- Two calls that add one sword each have returned, and one sword more is
stored. -/
theorem overlapping_additions_lose_one :
    ∃ s, (machine protocol).exec (start oneSword) overlap = some s ∧ s.active.keys = [] ∧
      ¬Conserved oneSword s.committed s.succeeded := by
  obtain ⟨s, hexec, hresult⟩ := Option.map_eq_some_iff.mp overlap_result
  simp only [Prod.mk.injEq] at hresult
  obtain ⟨hquantity, htotal, hactive⟩ := hresult
  refine ⟨s, hexec, hactive, ?_⟩
  intro hconserved
  have hsword := hconserved.quantity "p1" ⟨"i1", 40⟩ "sword" rfl
  rw [hquantity, htotal] at hsword
  exact absurd hsword (by decide)

instance (a : Active Effect (String × String) Call Pc) (db : InventoryDb) :
    Decidable (ReadHolds a db) :=
  match a with
  | ⟨_, pc, _, _⟩ =>
    match pc with
    | .update inventoryId itemKey existing _ | .delete inventoryId itemKey existing =>
      inferInstanceAs (Decidable (∀ row ∈ rowOf db (inventoryId, itemKey) existing,
        row.quantity = existing.quantity))
    | .findInventory _ | .findItems _ _ | .create _ _ _ | .finish _ => isTrue trivial

def shields : AddItemInput where
  playerId := "p1"
  itemKey := "shield"
  name := "Shield"
  quantity := 2
  metadata := none

/-- A second sword, two shields and the removal of a sword, all in progress before the first
write. The removal reads the items once the addition to its row has committed; a removal of three
shields throws, and an addition is rejected halfway. -/
def interleaved : List (ReadCommitted.Event Call Failure) :=
  [.call (.addItem sword "r2"), .call (.removeItem ⟨"p1", "sword", 1⟩),
    .call (.addItem shields "r3"), .call (.addItem sword "r4"),
    .statement 0, .statement 1, .statement 2, .statement 3, .statement 0, .statement 2,
    .statement 0, .statement 2, .statement 3, .commit 2, .abort 3 .connectionLost,
    .call (.removeItem ⟨"p1", "shield", 3⟩), .statement 4, .statement 4,
    .commit 0, .statement 1, .statement 1, .commit 1]

theorem interleaved_conserved :
    ∃ s, (machine protocol).exec (start oneSword) interleaved = some s ∧
      s.succeeded.map Prod.fst = [2, 0, 1] ∧ s.failed.map Prod.fst = [3, 4] ∧
      Conserved oneSword s.committed s.succeeded := by
  have hrun : ((machine protocol).exec (start oneSword) interleaved).map
      (fun s => (s.succeeded.map Prod.fst, s.failed.map Prod.fst)) = some ([2, 0, 1], [3, 4]) := by
    decide +kernel
  obtain ⟨s, hexec, hends⟩ := Option.map_eq_some_iff.mp hrun
  simp only [Prod.mk.injEq] at hends
  have hconserved := quantities_conserved oneSword interleaved
    (Machine.stepsMeet_iff_decide.mpr (by decide +kernel))
  exact ⟨s, hexec, hends.1, hends.2, hconserved.last hexec⟩

end RealtimeGameServer.Guarantees.InventoryConservation
