import RealtimeGameServer.Source.PlayerService

/-!
# Equipment under concurrent updates

`equipItem` and `unequipItem` read the whole equipment of a player, edit one slot of it
and write the whole of it back in another repository call. A write keeps the updates of
other calls only where their slots still are as the call has read them: every
successful call has its slot as it left it, in every state of a run, if and only if that
holds of every write.
-/
namespace RealtimeGameServer.Guarantees.EquipmentUpdates
open Lib Calls Source PlayerService

abbrev ServiceState := Calls.State PlayerDb Call Place Reply Failure

abbrev ServiceEvent := Calls.Event Call String Failure

abbrev Ended := Nat × Call × Except Failure Reply

section
variable (playerId : String)

/-- The slot of a player that a call is about, with what it should hold. -/
def edit : Call → Option (EquipmentSlot × Option String)
  | .equipItem id slot itemKey => if id = playerId then some (slot, some itemKey) else none
  | .unequipItem id slot => if id = playerId then some (slot, none) else none
  | _ => none

/-- What the calls of a run ask for, in the order in which they start. -/
def edits (events : List ServiceEvent) : List (EquipmentSlot × Option String) :=
  (issued events).filterMap (edit playerId)

def landedEdit (entry : Ended) : Option (EquipmentSlot × Option String) :=
  match entry.2.2 with
  | .ok _ => edit playerId entry.2.1
  | .error _ => none

/-- The edits of the calls that have succeeded, in the order in which they ended. -/
def landed (log : List Ended) : List (EquipmentSlot × Option String) :=
  log.filterMap (landedEdit playerId)

/-- Edits made one after another. -/
def editAll (equipment : Equipment) (edits : List (EquipmentSlot × Option String)) : Equipment :=
  edits.foldl (fun worn e => setEquipmentSlot worn e.1 e.2) equipment

/-- The player has what it started with, with the slot of every call that has
succeeded set to its item or cleared. -/
def Updated (initial : Equipment) (s : ServiceState) : Prop :=
  s.store.players.get playerId = some (editAll initial (landed playerId s.ended))

/-- Each slot the calls of a run are about is as they ask, and every other one as it was. -/
def AllEdited (initial : Equipment) (events : List ServiceEvent) (s : ServiceState) : Prop :=
  ∃ equipment, s.store.players.get playerId = some equipment ∧
    (∀ slot item, (slot, item) ∈ edits playerId events → equipment.get slot = item) ∧
    ∀ slot, slot ∉ (edits playerId events).map Prod.fst → equipment.get slot = initial.get slot

/-- Every call of the run has ended, and those for the player have returned. -/
def AllSucceeded (s : ServiceState) : Prop :=
  s.active.keys = [] ∧ ∀ entry ∈ s.ended, edit playerId entry.2.1 ≠ none → entry.2.2.isOk

/-- A call that writes the player's equipment writes every slot but its own as it is. -/
def WriteFresh (s : ServiceState) : ServiceEvent → Prop
  | .operation number _ => ∀ call equipment slot item,
      s.active.get number = some ⟨call, .updateEquipment playerId equipment⟩ →
        edit playerId call = some (slot, item) →
          ∀ worn, s.store.players.get playerId = some worn →
            ∀ other, other ≠ slot → equipment.get other = worn.get other
  | _ => True

end

variable {playerId : String}

theorem equipment_ext {equipment worn : Equipment}
    (h : ∀ slot, equipment.get slot = worn.get slot) : equipment = worn := by
  obtain ⟨weapon, helmet, chest, legs, boots, accessory⟩ := equipment
  obtain ⟨weapon', helmet', chest', legs', boots', accessory'⟩ := worn
  cases h .weapon
  cases h .helmet
  cases h .chest
  cases h .legs
  cases h .boots
  cases h .accessory
  rfl

/-- Equipment with the slot as edited is the edit of equipment that has the other slots. -/
theorem eq_setEquipmentSlot_iff {equipment worn : Equipment} {slot : EquipmentSlot}
    {item : Option String} (own : equipment.get slot = item) :
    equipment = setEquipmentSlot worn slot item ↔
      ∀ other, other ≠ slot → equipment.get other = worn.get other := by
  constructor
  · rintro rfl other hne
    rw [get_setEquipmentSlot, if_neg hne]
  · intro hothers
    refine equipment_ext fun other => ?_
    rw [get_setEquipmentSlot]
    split
    next heq => rw [heq, own]
    next hne => exact hothers other hne

theorem editAll_append (equipment : Equipment) (front back : List (EquipmentSlot × Option String)) :
    editAll equipment (front ++ back) = editAll (editAll equipment front) back :=
  List.foldl_append

/-- A slot that no edit is about stays. -/
theorem get_editAll_of_absent {slot : EquipmentSlot} {edits : List (EquipmentSlot × Option String)}
    (h : slot ∉ edits.map Prod.fst) (equipment : Equipment) :
    (editAll equipment edits).get slot = equipment.get slot := by
  induction edits generalizing equipment with
  | nil => rfl
  | cons first rest ih =>
    obtain ⟨hne, hrest⟩ := not_or.mp (List.mem_cons.not.mp h)
    have hfirst : (setEquipmentSlot equipment first.1 first.2).get slot = equipment.get slot := by
      rw [get_setEquipmentSlot, if_neg hne]
    exact (ih hrest _).trans hfirst

/-- Of edits of distinct slots each one is there in the end. -/
theorem get_editAll_of_mem {slot : EquipmentSlot} {item : Option String}
    {edits : List (EquipmentSlot × Option String)} (distinct : (edits.map Prod.fst).Nodup)
    (h : (slot, item) ∈ edits) (equipment : Equipment) :
    (editAll equipment edits).get slot = item := by
  induction edits generalizing equipment with
  | nil => cases h
  | cons first rest ih =>
    obtain ⟨hfresh, hdistinct⟩ := List.nodup_cons.mp distinct
    rcases List.mem_cons.mp h with rfl | hrest
    · have hlater := get_editAll_of_absent hfresh (setEquipmentSlot equipment slot item)
      refine hlater.trans ?_
      rw [get_setEquipmentSlot, if_pos rfl]
    · exact ih hdistinct hrest _

/-- The call is the one its place belongs to; the equipment it writes has its own slot
as edited. -/
def Knows (call : Call) : Place → Prop
  | .addGetByPlayerId input | .addEnsure input | .addAddItem input => call = .addItem input
  | .removeGetByPlayerId input | .removeRemoveItem input => call = .removeItem input
  | .equipGetByPlayerId playerId slot itemKey | .equipFindById playerId slot itemKey =>
    call = .equipItem playerId slot itemKey
  | .unequipFindById playerId slot => call = .unequipItem playerId slot
  | .updateEquipment playerId equipment =>
    ∃ slot item, edit playerId call = some (slot, item) ∧ equipment.get slot = item

theorem edit_player {call : Call} {other : String} {e f : EquipmentSlot × Option String}
    (h : edit playerId call = some e) (hother : edit other call = some f) : playerId = other := by
  cases call with
  | addItem | removeItem => cases h
  | equipItem id slot itemKey | unequipItem id slot =>
    obtain ⟨rfl, -⟩ := Option.ite_none_right_eq_some.mp h
    exact (Option.ite_none_right_eq_some.mp hother).1

theorem knows_opens {call : Call} {place : Place} (h : opens call = .goes place) :
    Knows call place := by
  cases call with
  | addItem | removeItem =>
    cases h
    rfl
  | equipItem playerId slot itemKey | unequipItem playerId slot =>
    rw [opens, if_neg (not_not.mpr (mem_equipmentSlots slot))] at h
    cases h
    rfl

theorem knows_getProfile {db : PlayerDb} {call : Call} {slot : EquipmentSlot}
    {item : Option String} (hedit : edit playerId call = some (slot, item)) {place : Place}
    (h : getProfile db playerId (fun player =>
      .updateEquipment playerId (setEquipmentSlot player.equipment slot item)) = .goes place) :
    Knows call place := by
  unfold getProfile at h
  split at h
  next => cases h
  next player _ =>
    cases h
    refine ⟨slot, item, hedit, ?_⟩
    rw [get_setEquipmentSlot, if_pos rfl]

theorem knows_run {call : Call} {place next : Place} {draw : String} {db : PlayerDb}
    (hknows : Knows call place) (h : (run place draw db).2 = .goes next) : Knows call next := by
  cases place with
  | addGetByPlayerId input =>
    simp only [run] at h
    split at h <;> cases h <;> exact hknows
  | addEnsure input =>
    simp only [run] at h
    split at h <;> cases h
    exact hknows
  | addAddItem input | removeRemoveItem input =>
    simp only [run, transacted] at h
    split at h <;> cases h
  | removeGetByPlayerId input =>
    simp only [run] at h
    split at h <;> cases h
    exact hknows
  | equipGetByPlayerId playerId slot itemKey =>
    simp only [run] at h
    split at h
    next => cases h
    next =>
      split at h <;> cases h
      exact hknows
  | equipFindById playerId slot itemKey =>
    refine knows_getProfile ?_ h
    rw [hknows]
    exact if_pos rfl
  | unequipFindById playerId slot =>
    refine knows_getProfile ?_ h
    rw [hknows]
    exact if_pos rfl
  | updateEquipment playerId equipment =>
    simp only [run] at h
    split at h <;> cases h

abbrev Held : PlayerDb → ServiceState → Prop :=
  Calls.Held (fun _ _ => True) (fun _ _ => True) fun call place _ => Knows call place

/-- What a call knows does not depend on the tables. -/
theorem rule : Rule program (fun _ _ => True) (fun _ _ => True)
    fun call place _ => Knows call place where
  refl _ := trivial
  trans _ _ _ _ _ := trivial
  mono _ _ _ _ _ h := h
  grows _ _ _ := trivial
  opened _ _ _ _ _ := ⟨fun _ => trivial, fun _ h => knows_opens h⟩
  ran _ _ _ _ _ _ hknows := ⟨fun _ => trivial, fun _ h => knows_run hknows h⟩
  rejected _ _ _ _ _ _ := trivial

theorem landed_append (log more : List Ended) :
    landed playerId (log ++ more) = landed playerId log ++ landed playerId more :=
  List.filterMap_append

theorem landed_throws (number : Nat) (call : Call) (failure : Failure) :
    landed playerId ((Next.throws failure : Next Place Reply Failure).log number call) = [] := rfl

/-- No call has succeeded before its first repository call. -/
theorem landed_opens (number : Nat) (call : Call) :
    landed playerId ((opens call).log number call) = [] := by
  cases call with
  | addItem | removeItem => rfl
  | equipItem id slot itemKey | unequipItem id slot =>
    rw [opens, if_neg (not_not.mpr (mem_equipmentSlots slot))]
    rfl

theorem landed_returns (number : Nat) (call : Call) (reply : Reply) :
    landed playerId ((Next.returns reply : Next Place Reply Failure).log number call) =
      (edit playerId call).toList := by
  unfold landed Next.log
  rw [List.filterMap_cons, List.filterMap_nil, landedEdit]
  cases edit playerId call <;> rfl

/-- The player whose equipment a repository call writes. -/
def writtenBy : Place → Option String
  | .updateEquipment playerId _ => some playerId
  | _ => none

variable (playerId) in
/-- What a repository call does to the player's equipment: nothing, and then no edit of it
lands, or it writes the whole of it. -/
inductive Writes (db : PlayerDb) (call : Call) (place : Place) (db' : PlayerDb)
    (next : Next Place Reply Failure) : Prop
  | none (elsewhere : writtenBy place ≠ some playerId)
      (players : db'.players.get playerId = db.players.get playerId)
      (lands : ∀ number, landed playerId (next.log number call) = [])
  | all (equipment : Equipment) (slot : EquipmentSlot) (item : Option String)
      (at_ : place = .updateEquipment playerId equipment)
      (asked : edit playerId call = some (slot, item)) (own : equipment.get slot = item)
      (players : db'.players.get playerId = some equipment)
      (lands : ∀ number, landed playerId (next.log number call) = [(slot, item)])

theorem run_writes {call : Call} {place : Place} {db : PlayerDb} {worn : Equipment}
    (hknows : Knows call place) (hworn : db.players.get playerId = some worn) (draw : String) :
    Writes playerId db call place (run place draw db).1 (run place draw db).2 := by
  have hnone : (Option.none : Option String) ≠ some playerId := (Option.some_ne_none playerId).symm
  cases place with
  | addGetByPlayerId input =>
    simp only [run]
    split <;> exact .none hnone rfl fun _ => rfl
  | addEnsure input =>
    simp only [run]
    split <;> exact .none hnone rfl fun _ => rfl
  | addAddItem input | removeRemoveItem input =>
    simp only [run, transacted]
    split
    next => exact .none hnone rfl fun _ => rfl
    next =>
      refine .none hnone rfl fun number => ?_
      rw [landed_returns, hknows]
      rfl
  | removeGetByPlayerId input =>
    simp only [run]
    split <;> exact .none hnone rfl fun _ => rfl
  | equipGetByPlayerId id slot itemKey =>
    simp only [run]
    split
    next => exact .none hnone rfl fun _ => rfl
    next => split <;> exact .none hnone rfl fun _ => rfl
  | equipFindById id slot itemKey | unequipFindById id slot =>
    simp only [run, getProfile]
    split <;> exact .none hnone rfl fun _ => rfl
  | updateEquipment id equipment =>
    obtain ⟨slot, item, hedit, hown⟩ := hknows
    simp only [run]
    by_cases hid : id = playerId
    · subst hid
      have hhas : db.players.has id = true := by rw [JsMap.has, hworn, Option.isSome_some]
      rw [if_pos hhas]
      refine .all equipment slot item rfl hedit hown (JsMap.get_set_self _ _ _) fun number => ?_
      rw [landed_returns, hedit, Option.toList_some]
    · have hother : writtenBy (.updateEquipment id equipment) ≠ some playerId :=
        fun heq => hid (Option.some.inj heq)
      split
      next =>
        refine .none hother (JsMap.get_set_of_ne _ (Ne.symm hid) _) fun number => ?_
        rw [landed_returns]
        cases hnone : edit playerId call with
        | none => rfl
        | some e => exact absurd (edit_player hedit hnone) hid
      next => exact .none hother rfl fun _ => rfl

/-- One step keeps every update, exactly when a write of the player's equipment has the
other slots as they are. -/
theorem Updated.step {initial : Equipment} {base : PlayerDb} {s t : ServiceState}
    {event : ServiceEvent} (h : Updated playerId initial s) (hheld : Held base s)
    (hstep : (machine program).step s event = some t) :
    Updated playerId initial t ↔ WriteFresh playerId s event := by
  cases step_cases hstep with
  | @called call draw =>
    have hlands : landed playerId ((program.opens call draw).log s.started call) = [] :=
      landed_opens s.started call
    refine iff_of_true ?_ trivial
    unfold Updated
    dsimp only
    rw [store_proceed, ended_proceed, landed_append, hlands, List.append_nil]
    exact h
  | @operated number draw a store next get hrun =>
    obtain ⟨call, place⟩ := a
    have hwrites := run_writes (hheld.locally_ number _ get) h draw
    have hrun' : run place draw s.store = (store, next) := hrun
    rw [hrun'] at hwrites
    unfold Updated
    rw [store_proceed, ended_proceed, landed_append]
    cases hwrites with
    | none elsewhere players lands =>
      rw [players, lands, List.append_nil]
      refine iff_of_true h fun call' equipment slot item hget => ?_
      cases get.symm.trans hget
      exact absurd rfl elsewhere
    | all equipment slot item at_ asked own players lands =>
      subst at_
      rw [players, lands, editAll_append, Option.some_inj]
      refine (eq_setEquipmentSlot_iff own).trans ?_
      constructor
      · intro hothers call' equipment' slot' item' hget hasked worn hworn
        cases get.symm.trans hget
        cases asked.symm.trans hasked
        cases h.symm.trans hworn
        exact hothers
      · exact fun hfresh => hfresh call equipment slot item get asked _ h
  | @rejected number reason a get =>
    refine iff_of_true ?_ trivial
    unfold Updated
    rw [store_proceed, ended_proceed, landed_append, landed_throws, List.append_nil]
    exact h

/-- Once every call has succeeded, the edits that have landed are those of the calls. -/
theorem landed_perm {db : PlayerDb} {events : List ServiceEvent} {s : ServiceState}
    (hexec : (machine program).exec (start db) events = some s) (hall : AllSucceeded playerId s) :
    (landed playerId s.ended).Perm (edits playerId events) := by
  have hperm := (accounted_exec hexec).perm hall.1
  have hlanded : landed playerId s.ended = (s.ended.map fun e => e.2.1).filterMap (edit playerId) := by
    rw [landed, List.filterMap_map]
    refine List.filterMap_congr fun entry hentry => ?_
    have hok := hall.2 entry hentry
    rw [landedEdit, Function.comp_apply]
    split
    next => rfl
    next failure herror =>
      rw [herror] at hok
      by_contra hedit
      exact absurd (hok (Ne.symm hedit)) Bool.false_ne_true
  rw [hlanded]
  exact hperm.filterMap _

/-- In every run of the services, whatever its calls: each successful call keeps its edit
of the player's equipment in every state precisely when every write of it has the other
slots as they are. In such a run, once calls for pairwise distinct slots have all
succeeded, each slot they are about is as they left it and every other slot as it was. -/
theorem equipment_updates_kept_iff (db : PlayerDb) (playerId : String) (initial : Equipment)
    (hinitial : db.players.get playerId = some initial) (events : List ServiceEvent) :
    ((machine program).Along (Updated playerId initial) (start db) events ↔
      (machine program).StepsMeet (WriteFresh playerId) (start db) events) ∧
    ((machine program).StepsMeet (WriteFresh playerId) (start db) events →
      ((edits playerId events).map Prod.fst).Nodup →
      ∀ s, (machine program).exec (start db) events = some s → AllSucceeded playerId s →
        AllEdited playerId initial events s) := by
  have halong : (machine program).Along (Updated playerId initial) (start db) events ↔
      (machine program).StepsMeet (WriteFresh playerId) (start db) events := by
    refine Machine.along_iff_stepsMeet (L := fun _ => True)
      (I := fun s => Held db s ∧ Updated playerId initial s) (fun _ h => h.2) ?_ ?_
      (fun _ _ => trivial) ⟨(along_of_rule rule trivial []).head, hinitial⟩
    · exact fun s event t h _ hstep hfresh =>
        ⟨h.1.step rule (step_cases hstep), (h.2.step h.1 hstep).mpr hfresh⟩
    · exact fun s event t h _ hstep hupdated => (h.2.step h.1 hstep).mp hupdated
  refine ⟨halong, fun hfresh hdistinct s hexec hall => ?_⟩
  have hperm := landed_perm hexec hall
  have hdistinct' : ((landed playerId s.ended).map Prod.fst).Nodup :=
    (hperm.map Prod.fst).nodup_iff.mpr hdistinct
  refine ⟨_, (halong.mpr hfresh).last hexec, fun slot item hmem => ?_, fun slot habsent => ?_⟩
  · exact get_editAll_of_mem hdistinct' (hperm.mem_iff.mpr hmem) initial
  · exact get_editAll_of_absent (mt (hperm.map Prod.fst).mem_iff.mp habsent) initial

def dressed : Equipment := { emptyEquipment with weapon := some "sword", helmet := some "cap" }

theorem distinct_empty (p q : String) (i j : InventoryRow) (hp : JsMap.empty.get p = some i)
    (_ : JsMap.empty.get q = some j) (_ : i.id = j.id) : p = q := by
  cases hp

def oneDressed : PlayerDb where
  inventory := { inventories := .empty, items := .empty, distinct := distinct_empty }
  players := JsMap.empty.set "p1" dressed

def unequip (slot : EquipmentSlot) : ServiceEvent := .call (.unequipItem "p1" slot) ""

/-- Both calls read the equipment before either writes it. -/
def clearedAtOnce : List ServiceEvent :=
  [unequip .weapon, unequip .helmet, .operation 0 "", .operation 1 "", .operation 0 "",
    .operation 1 ""]

/-- The second write brings the weapon of the first call back. -/
theorem cleared_slot_comes_back : ¬∀ (db : PlayerDb) (playerId : String) (initial : Equipment),
    db.players.get playerId = some initial → ∀ events : List ServiceEvent,
      ((edits playerId events).map Prod.fst).Nodup →
        ∀ s, (machine program).exec (start db) events = some s → AllSucceeded playerId s →
          AllEdited playerId initial events s := by
  intro h
  have hlast := h oneDressed "p1" dressed rfl clearedAtOnce (by decide) _ rfl
  obtain ⟨equipment, hequipment, hedited, -⟩ := hlast ⟨rfl, by decide⟩
  cases hequipment
  cases hedited .weapon none (by decide)

/-- One after the other. -/
def clearedInTurn : List ServiceEvent :=
  [unequip .weapon, .operation 0 "", .operation 0 "", unequip .helmet, .operation 1 "",
    .operation 1 ""]

theorem cleared_in_turn_kept :
    ∃ s, (machine program).exec (start oneDressed) clearedInTurn = some s ∧
      AllEdited "p1" dressed clearedInTurn s := by
  refine ⟨_, rfl, ?_⟩
  refine (equipment_updates_kept_iff oneDressed "p1" dressed rfl clearedInTurn).2 ?_ (by decide)
    _ rfl ⟨rfl, by decide⟩
  refine .cons rfl trivial (.cons rfl ?_ (.cons rfl ?_ (.cons rfl trivial (.cons rfl ?_
    (.cons rfl ?_ trivial)))))
  · rintro _ _ _ _ ⟨⟩
  · rintro _ _ _ _ ⟨⟩ ⟨⟩ _ ⟨⟩ other hne
    exact (get_setEquipmentSlot _ _ _ _).trans (if_neg hne)
  · rintro _ _ _ _ ⟨⟩
  · rintro _ _ _ _ ⟨⟩ ⟨⟩ _ ⟨⟩ other hne
    exact (get_setEquipmentSlot _ _ _ _).trans (if_neg hne)

end RealtimeGameServer.Guarantees.EquipmentUpdates
