import RealtimeGameServer.Guarantees.RequestOwnership

/-!
# What strangers cannot do to a player

A player's items, equipment, coins, ledger and room memberships are changed by calls that
name the player, and by no others: calls of others stay away from them at every one of
their repository calls and statements. With RequestOwnership: in a run of the server in
which no request carries a token of the player's user, and no request that names the
player carries the admin key, whatever the services do with the calls of the run, in any
order, leaves the player as it was.
-/
namespace RealtimeGameServer.Guarantees.UntouchedPlayers
open Lib Source
open RequestOwnership (AuthState Authorized accessTokenOf ActsAs IsOpen IsAdmin Jwt Unforged)
open LobbyStatements (callPlayer seats)

section Items
open Calls PlayerService

/-- The equipment of a player, the row of the inventory, and the items in it. -/
def belongings (player : String) (db : PlayerDb) :
    Option Equipment × Option (InventoryRow × (String → Option ItemRow)) :=
  (db.players.get player, (db.inventory.inventories.get player).map fun row =>
    (row, fun itemKey => db.inventory.items.get (row.id, itemKey)))

def itemsPlayer : PlayerService.Call → String
  | .addItem input => input.playerId
  | .removeItem input => input.playerId
  | .equipItem playerId _ _ => playerId
  | .unequipItem playerId _ => playerId

/-- The player that a place of a call is about. -/
def placePlayer : Place → String
  | .addGetByPlayerId input | .addEnsure input | .addAddItem input => input.playerId
  | .removeGetByPlayerId input | .removeRemoveItem input => input.playerId
  | .equipGetByPlayerId playerId _ _ | .equipFindById playerId _ _
  | .unequipFindById playerId _ | .updateEquipment playerId _ => playerId

/-- A row of another player's inventory. -/
theorem belongings_apply {player other : String} (hne : other ≠ player) {db : PlayerDb}
    {row : InventoryRow} (hrow : db.inventory.inventories.get other = some row) (itemKey : String)
    (item : Option ItemRow) :
    belongings player { db with inventory := Inventory.apply db.inventory ⟨(row.id, itemKey), item⟩ } =
      belongings player db := by
  have hinventories : (Inventory.apply db.inventory ⟨(row.id, itemKey), item⟩).inventories =
      db.inventory.inventories := rfl
  unfold belongings
  rw [hinventories]
  cases hown : db.inventory.inventories.get player with
  | none => rfl
  | some own =>
    have hid : own.id ≠ row.id := fun heq =>
      hne (db.inventory.distinct other player row own hrow hown heq.symm)
    simp only [Option.map_some, Prod.mk.injEq, Option.some.injEq, true_and]
    funext key
    rw [Inventory.get_apply]
    exact if_neg fun heq => hid (Prod.mk.inj heq).1

theorem belongings_transacted {player other : String} (hne : other ≠ player) {db : PlayerDb}
    {result : Except Failure (InventoryDb × Option InventoryItemEntity)}
    (h : ∀ inventory item, result = .ok (inventory, item) → ∃ row itemKey changed,
      db.inventory.inventories.get other = some row ∧
        inventory = Inventory.apply db.inventory ⟨(row.id, itemKey), changed⟩) :
    belongings player (transacted db result).1 = belongings player db := by
  unfold transacted
  split
  next => rfl
  next inventory item =>
    obtain ⟨row, itemKey, changed, hrow, rfl⟩ := h inventory item rfl
    exact belongings_apply hne hrow itemKey changed

/-- `addItem` writes one row of the inventory of its player. -/
theorem addItem_ok {db inventory : InventoryDb} {input : AddItemInput} {rowId : String}
    {item : Option InventoryItemEntity}
    (h : Inventory.addItem db input rowId = .ok (inventory, item)) : ∃ row itemKey changed,
      db.inventories.get input.playerId = some row ∧
        inventory = Inventory.apply db ⟨(row.id, itemKey), changed⟩ := by
  unfold Inventory.addItem Inventory.getByPlayerId at h
  split at h
  next => cases h
  next =>
    cases hrow : db.inventories.get input.playerId with
    | none =>
      rw [hrow] at h
      cases h
    | some row =>
      rw [hrow] at h
      simp only [Option.map_some] at h
      split at h
      next =>
        split at h
        next => cases h
        next =>
          split at h <;> cases h
          exact ⟨row, _, _, rfl, rfl⟩
      next =>
        split at h <;> cases h
        exact ⟨row, _, _, rfl, rfl⟩

theorem removeItem_ok {db inventory : InventoryDb} {input : RemoveItemInput}
    {item : Option InventoryItemEntity}
    (h : Inventory.removeItem db input = .ok (inventory, item)) : ∃ row itemKey changed,
      db.inventories.get input.playerId = some row ∧
        inventory = Inventory.apply db ⟨(row.id, itemKey), changed⟩ := by
  unfold Inventory.removeItem Inventory.getByPlayerId at h
  split at h
  next => cases h
  next =>
    cases hrow : db.inventories.get input.playerId with
    | none =>
      rw [hrow] at h
      cases h
    | some row =>
      rw [hrow] at h
      simp only [Option.map_some] at h
      split at h
      next => cases h
      next =>
        split at h
        next => cases h
        next =>
          split at h
          next =>
            cases h
            exact ⟨row, _, _, rfl, rfl⟩
          next =>
            split at h <;> cases h
            exact ⟨row, _, _, rfl, rfl⟩

theorem belongings_ensure {player other rowId : String} (hne : other ≠ player) {db : PlayerDb}
    {exists_ : Bool} {inventory : InventoryDb}
    (h : Inventory.ensureForPlayer db.inventory exists_ other rowId = .ok inventory) :
    belongings player { db with inventory } = belongings player db := by
  unfold Inventory.ensureForPlayer at h
  split at h
  next => cases h; rfl
  next =>
    dsimp only at h
    split at h
    next fresh =>
      split at h <;> cases h
      unfold belongings Inventory.insertInventory
      rw [JsMap.get_set_of_ne _ (Ne.symm hne)]
    next => cases h

theorem getProfile_goes {db : PlayerDb} {playerId : String} {next : PlayerService.PlayerProfile → Place}
    {place : Place} (h : getProfile db playerId next = .goes place) :
    ∃ player, place = next player := by
  unfold getProfile at h
  split at h
  next => cases h
  next player _ =>
    cases h
    exact ⟨player, rfl⟩

theorem items_bystander (player : String) : Calls.Bystander PlayerService.program
    (fun call => itemsPlayer call ≠ player) (fun place => placePlayer place ≠ player)
    (belongings player) where
  opened call draw place hother h := by
    cases call with
    | addItem input | removeItem input =>
      cases h
      exact hother
    | equipItem playerId slot itemKey | unequipItem playerId slot =>
      simp only [program, opens] at h
      split at h <;> cases h
      exact hother
  ran place draw db next haway h := by
    cases place with
    | addGetByPlayerId input | removeGetByPlayerId input | addEnsure input =>
      simp only [program, run] at h
      split at h <;> cases h <;> exact haway
    | addAddItem input | removeRemoveItem input =>
      simp only [program, run, transacted] at h
      split at h <;> cases h
    | equipGetByPlayerId playerId slot itemKey =>
      simp only [program, run] at h
      split at h
      next => cases h
      next =>
        split at h <;> cases h
        exact haway
    | equipFindById playerId slot itemKey | unequipFindById playerId slot =>
      obtain ⟨profile, rfl⟩ := getProfile_goes h
      exact haway
    | updateEquipment playerId equipment =>
      simp only [program, run] at h
      split at h <;> cases h
  kept place draw db haway := by
    cases place with
    | addGetByPlayerId input | removeGetByPlayerId input =>
      simp only [program, run]
      split <;> rfl
    | addEnsure input =>
      simp only [program, run]
      split
      next => rfl
      next inventory hensure => exact belongings_ensure haway hensure
    | addAddItem input => exact belongings_transacted haway fun _ _ => addItem_ok
    | removeRemoveItem input => exact belongings_transacted haway fun _ _ => removeItem_ok
    | equipGetByPlayerId playerId slot itemKey =>
      simp only [program, run]
      split
      next => rfl
      next => split <;> rfl
    | equipFindById | unequipFindById => rfl
    | updateEquipment playerId equipment =>
      simp only [program, run]
      split
      next =>
        have hne : player ≠ playerId := fun heq => haway heq.symm
        simp only [belongings, JsMap.get_set_of_ne _ hne]
      next => rfl

end Items

section Coins
open ReadCommitted Economy

/-- The coins of a player and their rows of the ledger. -/
def account (player : String) (db : EconomyDb) : Option Int × List CoinTransactionRow :=
  (db.players.get player, db.ledger.filter fun row => row.playerId = player)

def economyAway (player : String) : Economy.Pc → Prop
  | .selectForUpdate call | .updatePlayer call _ | .createTransaction call _ =>
    call.playerId ≠ player
  | .finish _ _ => True

def economyQuiet (player : String) : Economy.Effect → Prop
  | .setCoins playerId _ => playerId ≠ player
  | .insertRow row => row.playerId ≠ player

theorem coins_bystander (player : String) : ReadCommitted.Bystander Economy.protocol
    (fun call => call.playerId ≠ player) (economyAway player) (economyQuiet player)
    (account player) where
  opened call pc hother h := by
    simp only [protocol, opens] at h
    split at h <;> cases h
    exact hother
  ran pc db effects next haway h := by
    cases run_continues h with
    | found => exact ⟨haway, fun _ hmem => by cases hmem⟩
    | updated =>
      refine ⟨haway, fun effect hmem => ?_⟩
      rw [List.mem_singleton.mp hmem]
      exact haway
    | inserted =>
      refine ⟨trivial, fun effect hmem => ?_⟩
      rw [List.mem_singleton.mp hmem]
      exact haway
    | finished => exact ⟨trivial, fun _ hmem => by cases hmem⟩
  proceeded pc next haway h := by
    cases pc <;> cases h
  kept db effect hquiet := by
    cases effect with
    | setCoins playerId coins =>
      unfold account
      simp only [protocol, Economy.apply]
      rw [JsMap.get_set_of_ne _ (Ne.symm hquiet)]
    | insertRow row =>
      have hother : row.playerId ≠ player := hquiet
      simp [account, protocol, Economy.apply, hother]

end Coins

/-- The call changes rows of the player. -/
def Concerns (player : String) : ServiceCall → Prop
  | .items call => itemsPlayer call = player
  | .transfer _ playerId _ _ => playerId = player
  | .lobby call => callPlayer call = player
  | _ => False

/-- The access token was answered to the user that the player belongs to. -/
def TokenOf (signedFor : String → String) (s : AuthState) (player token : String) : Prop :=
  ∃ entry ∈ s.ended, accessTokenOf entry.2.2 = some token ∧ ∃ row ∈ s.store.players.rows,
    row.id = player ∧ Auth.MadeAs signedFor s.store entry.2.1 row.userId

/-- The request neither carries a token of the player's user nor is an admin's. -/
structure Stranger (env : HttpEnv) (signedFor : String → String) (s : AuthState) (player : String)
    (request : HttpRequest) : Prop where
  token : ∀ token, HttpServer.bearerToken request.authorization = some token →
    ¬TokenOf signedFor s player token
  key : ∀ key, env.adminApiKey = some key → request.xAdminKey ≠ .single key

/-- What the services do with these calls leaves the player as it was. -/
structure Untouched (player : String) (calls : List ServiceCall) : Prop where
  items : ∀ (store : PlayerDb) (events : List (Calls.Event PlayerService.Call String Failure)),
    (∀ call ∈ Calls.issued events, ServiceCall.items call ∈ calls) →
      (Calls.machine PlayerService.program).Along
        (fun t => belongings player t.store = belongings player store) (Calls.start store) events
  coins : ∀ (store : EconomyDb) (events : List (ReadCommitted.Event Economy.Call Failure)),
    (∀ call, .call call ∈ events →
      ServiceCall.transfer call.type call.playerId call.amount call.reason ∈ calls) →
      (ReadCommitted.machine Economy.protocol).Along
        (fun t => account player t.committed = account player store)
        (ReadCommitted.start store) events
  rooms : ∀ (maxPlayersPerRoom : Nat) (store : LobbyDb)
    (events : List (ReadCommitted.Event LobbyStatements.DrawnCall Failure)),
    (∀ drawn, .call drawn ∈ events → ServiceCall.lobby drawn.call ∈ calls) →
      (ReadCommitted.machine (LobbyStatements.protocol maxPlayersPerRoom)).Along
        (fun t => seats player t.committed = seats player store) (ReadCommitted.start store) events

/-- Calls that do not concern a player do not touch the player. -/
theorem untouched_of_unconcerned {player : String} {calls : List ServiceCall}
    (h : ∀ call ∈ calls, ¬Concerns player call) : Untouched player calls where
  items store _ hcalls := Calls.along_of_bystander (items_bystander player) store
    fun call hissued => h _ (hcalls call hissued)
  coins store _ hcalls := ReadCommitted.along_of_bystander (coins_bystander player) store
    fun call hevent => h _ (hcalls call hevent)
  rooms maxPlayersPerRoom store _ hcalls := ReadCommitted.along_of_bystander
    (LobbyStatements.lobby_bystander maxPlayersPerRoom player) store
    fun drawn hevent => h _ (hcalls drawn hevent)

/-- A user's own call concerns their player only. -/
theorem eq_of_acts {userId playerId player : String} {call : ServiceCall}
    (hacts : ActsAs userId playerId call) (hconcerns : Concerns player call) : playerId = player := by
  cases call with
  | items call =>
    cases call with
    | addItem input => exact hacts.elim
    | _ => exact hacts.symm.trans hconcerns
  | lobby call => exact hacts.symm.trans hconcerns
  | transfer => exact hacts.elim
  | _ => exact hconcerns.elim

/-- A stranger's call does not concern the player. -/
theorem not_concerns {env : HttpEnv} {signedFor : String → String} {s : AuthState} {player : String}
    {request : HttpRequest} {call : ServiceCall} (hstranger : Stranger env signedFor s player request)
    (h : Authorized env signedFor s request call) : ¬Concerns player call := by
  intro hconcerns
  cases h with
  | anyone isOpen =>
    cases call with
    | items | transfer | lobby => exact isOpen
    | _ => exact hconcerns
  | @owner token userId entry row bearer answered accessToken madeAs there own acts =>
    refine hstranger.token token bearer ⟨entry, answered, accessToken, row, there, ?_, own ▸ madeAs⟩
    exact eq_of_acts acts hconcerns
  | admin configured _ header _ => exact hstranger.key _ configured header

/-- In every run of the server in which every bearer token that the library accepts is one
that the server has answered with: take a player such that no call that would change
rows of the player is made with an access token of the player's user or with the admin
key. In whatever order the services run the calls of the run, the player's items,
equipment, coins, ledger and room memberships stay as they were. -/
theorem strangers_change_nothing (env : HttpEnv) (signedFor : String → String) (hjwt : Jwt env)
    (hverifies : Auth.Verifies env.tokens signedFor) (db : AuthDb) {events : List HttpEvent}
    {s : HttpServer}
    (hunforged : (HttpServer.machine env).StepsMeet (Unforged env) (HttpServer.start db) events)
    (hexec : (HttpServer.machine env).exec (HttpServer.start db) events = some s) (player : String)
    (hstrangers : ∀ entry ∈ s.dispatched, Concerns player entry.2 →
      Stranger env signedFor s.auth player entry.1) :
    Untouched player (s.dispatched.map Prod.snd) := by
  have hauthorized := (RequestOwnership.along_sound hjwt hverifies db hunforged).last hexec
  refine untouched_of_unconcerned fun call hcall hconcerns => ?_
  obtain ⟨entry, hentry, rfl⟩ := List.mem_map.mp hcall
  exact not_concerns (hstrangers entry hentry hconcerns) (hauthorized.authorized entry hentry) hconcerns

/-- One player takes an item away, and another is left alone. -/
theorem session_spares : ∃ s : HttpServer,
    s.dispatched.map Prod.snd = [.auth (.register ⟨"ace@example.com", "ace", "password123"⟩),
      .items (.removeItem ⟨"p1", "sword", 1⟩)] ∧
    Untouched "p2" (s.dispatched.map Prod.snd) := by
  obtain ⟨s, hexec, hcalls, -⟩ := RequestOwnership.session_calls
  refine ⟨s, hcalls, strangers_change_nothing RequestOwnership.smallEnv (fun _ => "")
    RequestOwnership.smallEnv_jwt RequestOwnership.smallEnv_verifies _
    RequestOwnership.session_unforged hexec "p2" ?_⟩
  intro entry hentry hconcerns
  have hcall := List.mem_map_of_mem (f := Prod.snd) hentry
  rw [hcalls] at hcall
  simp only [List.mem_cons, List.not_mem_nil, or_false] at hcall
  rcases hcall with heq | heq <;> rw [heq] at hconcerns
  · exact hconcerns.elim
  · exact absurd hconcerns (show "p1" ≠ "p2" by decide)

end RealtimeGameServer.Guarantees.UntouchedPlayers
