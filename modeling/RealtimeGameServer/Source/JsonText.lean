import RealtimeGameServer.Source.JsNumber
import RealtimeGameServer.Source.Protocol

/-!
# Snapshots and deltas as JSON text

Source: the interfaces of infrastructure/websocket/protocol.ts:38-64 and the
`JSON.stringify` of gateway.ts. A message is written as the object it is; `JSON.stringify`
leaves out a member that is `undefined` and writes `null` for a number that is not finite,
and `JSON.parse` reads everything else back as it was. A message survives if and only if
the numbers in it are finite.
-/
namespace RealtimeGameServer.Source
open Lib JsNumber

namespace Json

mutual

/-- `JSON.parse(JSON.stringify(value))`. -/
def throughText : Json JsNumber → Json JsNumber
  | null => null
  | bool value => bool value
  | num value => if value.isFinite then num value else null
  | str value => str value
  | arr items => arr (itemsThroughText items)
  | obj member => obj fun key => memberThroughText (member key)

def itemsThroughText : List (Json JsNumber) → List (Json JsNumber)
  | [] => []
  | item :: rest => throughText item :: itemsThroughText rest

def memberThroughText : Option (Json JsNumber) → Option (Json JsNumber)
  | none => none
  | some value => some (throughText value)

end

/-- The value that is read is the value that was written. -/
def Survives (value : Json JsNumber) : Prop := value.throughText = value

@[simp] theorem survives_num {value : JsNumber} :
    (num value : Json JsNumber).Survives ↔ value.isFinite = true := by
  rw [Survives, throughText]
  split
  next hfinite => exact iff_of_true rfl hfinite
  next hinfinite => exact iff_of_false (fun h => by cases h) hinfinite

@[simp] theorem survives_str (value : String) : (str value : Json JsNumber).Survives := by
  rw [Survives, throughText]

@[simp] theorem survives_bool (value : Bool) : (bool value : Json JsNumber).Survives := by
  rw [Survives, throughText]

@[simp] theorem survives_arr {items : List (Json JsNumber)} :
    (arr items).Survives ↔ ∀ item ∈ items, item.Survives := by
  rw [Survives, throughText, arr.injEq]
  induction items with
  | nil => simp [itemsThroughText]
  | cons item rest ih =>
    rw [itemsThroughText, List.cons.injEq, ih, List.forall_mem_cons]
    rfl

/-- An object literal; `none` is a member that is `undefined`. -/
def object {N : Type*} (members : List (String × Option (Json N))) : Json N :=
  obj fun key => (members.lookup key).join

/-- A member survives if it is `undefined` or its value does. -/
def MemberSurvives (member : String × Option (Json JsNumber)) : Prop :=
  ∀ value, member.2 = some value → value.Survives

@[simp] theorem memberSurvives_some {key : String} {value : Json JsNumber} :
    MemberSurvives (key, some value) ↔ value.Survives := by
  simp only [MemberSurvives, Option.some.injEq, forall_eq']

@[simp] theorem memberSurvives_none (key : String) :
    MemberSurvives (key, (none : Option (Json JsNumber))) := by
  rintro _ ⟨⟩

theorem memberThroughText_eq {member : String × Option (Json JsNumber)} :
    memberThroughText member.2 = member.2 ↔ MemberSurvives member := by
  obtain ⟨key, value⟩ := member
  cases value with
  | none => exact iff_of_true (by rw [memberThroughText]) (memberSurvives_none key)
  | some value =>
    rw [memberThroughText, Option.some.injEq, memberSurvives_some]
    rfl

theorem survives_object {members : List (String × Option (Json JsNumber))}
    (distinct : (members.map Prod.fst).Nodup) :
    (object members).Survives ↔ ∀ member ∈ members, MemberSurvives member := by
  have hlookup : ∀ key value, members.lookup key = some value ↔ (key, value) ∈ members :=
    JsMap.get_eq_some ⟨members, distinct⟩
  rw [Survives, object, throughText, obj.injEq]
  constructor
  · intro h member hmember
    have hkey := congrFun h member.1
    rw [(hlookup member.1 member.2).mpr hmember, Option.join_some] at hkey
    exact memberThroughText_eq.mp hkey
  · intro h
    funext key
    cases hfound : members.lookup key with
    | none => rw [Option.join_none, memberThroughText]
    | some value =>
      rw [Option.join_some]
      exact memberThroughText_eq.mpr (h (key, value) ((hlookup key value).mp hfound))

section Messages
variable {N : Type}

def snapshotFrame (player : PlayerSnapshot N) : Json N :=
  object
    [("id", some (str player.id)),
      ("username", some (str player.username)),
      ("position", some (vecFrame player.position)),
      ("rotation", some (vecFrame player.rotation)),
      ("velocity", some (vecFrame player.velocity)),
      ("hp", some (num player.hp)),
      ("connected", some (bool player.connected)),
      ("ping", some (num player.ping)),
      ("lastProcessedInputSeq", some (num player.lastProcessedInputSeq))]

def patchFrame (patch : PlayerPatch N) : Json N :=
  object
    [("id", some (str patch.id)),
      ("username", patch.username.map str),
      ("position", patch.position.map vecFrame),
      ("rotation", patch.rotation.map vecFrame),
      ("velocity", patch.velocity.map vecFrame),
      ("hp", patch.hp.map num),
      ("connected", patch.connected.map bool),
      ("ping", patch.ping.map num),
      ("lastProcessedInputSeq", patch.lastProcessedInputSeq.map num)]

/-- `tick` and `baseTick` are counted and `serverTime` is read from the clock. -/
def messageFrame : SnapshotMessage JsNumber → Json JsNumber
  | .full message =>
    object
      [("type", some (str "snapshot")),
        ("tick", some (num (ofCount message.tick))),
        ("serverTime", some (num (ofTime message.serverTime))),
        ("players", some (arr (message.players.map snapshotFrame)))]
  | .delta message =>
    object
      [("type", some (str "delta")),
        ("tick", some (num (ofCount message.tick))),
        ("serverTime", some (num (ofTime message.serverTime))),
        ("baseTick", some (num (ofCount message.baseTick))),
        ("changes", some (arr (message.changes.map patchFrame))),
        ("removed", some (arr (message.removed.map str)))]

end Messages
end Json

/-- Every number of the snapshot is finite. -/
structure FiniteSnapshot (player : PlayerSnapshot JsNumber) : Prop where
  position : FiniteVec player.position
  rotation : FiniteVec player.rotation
  velocity : FiniteVec player.velocity
  hp : player.hp.isFinite = true
  ping : player.ping.isFinite = true
  lastProcessedInputSeq : player.lastProcessedInputSeq.isFinite = true

namespace Json

@[simp] theorem survives_vecFrame {v : Vec3 JsNumber} : (vecFrame v).Survives ↔ FiniteVec v := by
  have hobject : vecFrame v =
      object [("x", some (num v.x)), ("y", some (num v.y)), ("z", some (num v.z))] := by
    refine congrArg obj (funext fun key => ?_)
    by_cases hx : key = "x"
    · subst hx
      rfl
    by_cases hy : key = "y"
    · subst hy
      rfl
    by_cases hz : key = "z"
    · subst hz
      rfl
    simp [List.lookup_cons, hx, hy, hz, beq_eq_false_iff_ne.mpr hx, beq_eq_false_iff_ne.mpr hy,
      beq_eq_false_iff_ne.mpr hz]
  rw [hobject, survives_object (by simp)]
  simp [FiniteVec]

@[simp] theorem survives_snapshotFrame {player : PlayerSnapshot JsNumber} :
    (snapshotFrame player).Survives ↔ FiniteSnapshot player := by
  rw [snapshotFrame, survives_object (by simp)]
  simp only [List.forall_mem_cons, List.not_mem_nil, false_imp_iff, implies_true,
    memberSurvives_some, survives_num, survives_str, survives_bool, survives_vecFrame, true_and,
    and_true]
  constructor
  · rintro ⟨hposition, hrotation, hvelocity, hhp, hping, hseq⟩
    exact ⟨hposition, hrotation, hvelocity, hhp, hping, hseq⟩
  · rintro ⟨hposition, hrotation, hvelocity, hhp, hping, hseq⟩
    exact ⟨hposition, hrotation, hvelocity, hhp, hping, hseq⟩

/-- A message of either kind survives with the objects in its list. -/
theorem survives_full {message : FullSnapshotMessage JsNumber} :
    (messageFrame (.full message)).Survives ↔
      ∀ player ∈ message.players, FiniteSnapshot player := by
  rw [messageFrame, survives_object (by simp)]
  simp

theorem survives_delta {message : DeltaSnapshotMessage JsNumber} :
    (messageFrame (.delta message)).Survives ↔
      ∀ patch ∈ message.changes, (patchFrame patch).Survives := by
  rw [messageFrame, survives_object (by simp)]
  simp

/-- A patch carries `b` only if it differs from `a`, so for an `a` that survives the patch
survives if and only if `b` does. -/
theorem survives_changed {α : Type*} {encode : α → Json JsNumber} {P : α → Prop}
    (hencode : ∀ x, (encode x).Survives ↔ P x) {a b : α} {differs : Prop} [Decidable differs]
    (hsame : ¬differs → a = b) (ha : P a) (key : String) :
    MemberSurvives (key, (if differs then some b else none).map encode) ↔ P b := by
  by_cases h : differs
  · rw [if_pos h, Option.map_some, memberSurvives_some, hencode]
  · have hb : P b := hsame h ▸ ha
    rw [if_neg h]
    exact iff_of_true (memberSurvives_none key) hb

theorem vec_eq {a b : Vec3 JsNumber} (h : ¬vecDiffers a b = true) : a = b := by
  simp only [vecDiffers, Bool.or_eq_true, decide_eq_true_eq, not_or, ne_eq, not_not] at h
  obtain ⟨⟨hx, hy⟩, hz⟩ := h
  exact Vec3.ext hx hy hz

theorem survives_patchOf {prev player : PlayerSnapshot JsNumber}
    (hprev : FiniteSnapshot prev) :
    (patchFrame (patchOf prev player)).Survives ↔ FiniteSnapshot player := by
  have hconnected : MemberSurvives ("connected", (if prev.connected ≠ player.connected
      then some player.connected else none).map (bool : Bool → Json JsNumber)) :=
    (survives_changed (P := fun _ => True) (fun x => iff_true_intro (survives_bool x)) not_not.mp
      trivial _).mpr trivial
  have hvec : ∀ x : Vec3 JsNumber, (vecFrame x).Survives ↔ FiniteVec x :=
    fun _ => survives_vecFrame
  have hnum : ∀ x : JsNumber, (num x).Survives ↔ x.isFinite = true := fun _ => survives_num
  rw [patchFrame, survives_object (by simp)]
  simp only [List.forall_mem_cons, List.not_mem_nil, false_imp_iff, implies_true, patchOf,
    Option.map_none, memberSurvives_some, memberSurvives_none, survives_str, true_and, and_true]
  rw [survives_changed hvec vec_eq hprev.position, survives_changed hvec vec_eq hprev.rotation,
    survives_changed hvec vec_eq hprev.velocity, survives_changed hnum not_not.mp hprev.hp,
    survives_changed hnum not_not.mp hprev.ping,
    survives_changed hnum not_not.mp hprev.lastProcessedInputSeq]
  constructor
  · rintro ⟨hposition, hrotation, hvelocity, hhp, -, hping, hseq⟩
    exact ⟨hposition, hrotation, hvelocity, hhp, hping, hseq⟩
  · rintro ⟨hposition, hrotation, hvelocity, hhp, hping, hseq⟩
    exact ⟨hposition, hrotation, hvelocity, hhp, hconnected, hping, hseq⟩

theorem finite_of_not_dirty {prev player : PlayerSnapshot JsNumber}
    (hprev : FiniteSnapshot prev) (h : ¬dirty prev player = true) : FiniteSnapshot player := by
  simp only [dirty, Bool.or_eq_true, decide_eq_true_eq, not_or, ne_eq, not_not] at h
  obtain ⟨⟨⟨⟨⟨⟨hposition, hrotation⟩, hvelocity⟩, hhp⟩, -⟩, hping⟩, hseq⟩ := h
  exact
    { position := vec_eq hposition ▸ hprev.position
      rotation := vec_eq hrotation ▸ hprev.rotation
      velocity := vec_eq hvelocity ▸ hprev.velocity
      hp := hhp ▸ hprev.hp
      ping := hping ▸ hprev.ping
      lastProcessedInputSeq := hseq ▸ hprev.lastProcessedInputSeq }

/-- The change that `computeDelta` makes of a player, if any. -/
theorem survives_changeFor {previous : JsMap String (PlayerSnapshot JsNumber)}
    (hprevious : ∀ id prev, previous.get id = some prev → FiniteSnapshot prev)
    (player : PlayerSnapshot JsNumber) :
    (∀ patch, changeFor previous player = some patch → (patchFrame patch).Survives) ↔
      FiniteSnapshot player := by
  unfold changeFor
  cases hfound : previous.get player.id with
  | none =>
    have hwhole : patchFrame player.toPatch = snapshotFrame player := rfl
    simp only [Option.some.injEq, forall_eq', hwhole, survives_snapshotFrame]
  | some prev =>
    have hprev := hprevious player.id prev hfound
    dsimp only
    split
    next => simp only [Option.some.injEq, forall_eq', survives_patchOf hprev]
    next hclean =>
      refine iff_of_true ?_ (finite_of_not_dirty hprev hclean)
      rintro _ ⟨⟩

end Json
end RealtimeGameServer.Source
