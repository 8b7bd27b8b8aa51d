import RealtimeGameServer.Source.GameSession

/-!
# Session objects and their manager

Source: infrastructure/game/game-session-manager.ts and the timer of
infrastructure/game/game-session.ts:32-44. A handler that waits may hold a
`GameSession` the manager has forgotten, so objects live in a list that only
grows and are referred to by their index. A running object is one whose timer is
set; its `snapshot` listeners are the rooms the gateway subscribed it for.
-/
namespace RealtimeGameServer.Source
open Lib

structure SessionObject (R : Type*) where
  session : GameSession R
  running : Bool
  subscribers : List String

abbrev SessionId := Nat

structure GameSessionManager (R : Type*) where
  objects : List (SessionObject R)
  sessions : JsMap String SessionId

namespace GameSessionManager
variable {R : Type*}

def empty : GameSessionManager R := ⟨[], JsMap.empty⟩

def get (m : GameSessionManager R) (roomId : String) : Option SessionId := m.sessions.get roomId

/-- Dereference an object. -/
def object (m : GameSessionManager R) (id : SessionId) : Option (SessionObject R) := m.objects[id]?

def modify (m : GameSessionManager R) (id : SessionId)
    (f : SessionObject R → SessionObject R) : GameSessionManager R :=
  { m with objects := m.objects.modify id f }

def modifySession (m : GameSessionManager R) (id : SessionId)
    (f : GameSession R → GameSession R) : GameSessionManager R :=
  m.modify id fun o => { o with session := f o.session }

def getOrCreate (m : GameSessionManager R) (roomId : String) : GameSessionManager R × SessionId :=
  match m.sessions.get roomId with
  | some id => (m, id)
  | none =>
    let id := m.objects.length
    ({ objects := m.objects ++ [⟨GameSession.create roomId, true, []⟩]
       sessions := m.sessions.set roomId id }, id)

def destroy (m : GameSessionManager R) (roomId : String) : GameSessionManager R :=
  match m.sessions.get roomId with
  | none => m
  | some id =>
    let m := m.modify id fun o => { o with running := false }
    { m with sessions := m.sessions.delete roomId }

def destroyAll (m : GameSessionManager R) : GameSessionManager R :=
  m.sessions.keys.foldl destroy m

theorem object_modify (m : GameSessionManager R) (id : SessionId)
    (f : SessionObject R → SessionObject R) (j : SessionId) :
    (m.modify id f).object j = if j = id then (m.object j).map f else m.object j := by
  unfold object modify
  rw [List.getElem?_modify]
  by_cases h : id = j
  · subst h
    simp
  · simp [h, Ne.symm h]

theorem object_modifySession (m : GameSessionManager R) (id : SessionId)
    (f : GameSession R → GameSession R) (j : SessionId) :
    (m.modifySession id f).object j =
      if j = id then (m.object j).map fun o => { o with session := f o.session }
      else m.object j :=
  object_modify m id _ j

@[simp] theorem get_modify (m : GameSessionManager R) (id : SessionId)
    (f : SessionObject R → SessionObject R) (roomId : String) :
    (m.modify id f).get roomId = m.get roomId := rfl

@[simp] theorem get_modifySession (m : GameSessionManager R) (id : SessionId)
    (f : GameSession R → GameSession R) (roomId : String) :
    (m.modifySession id f).get roomId = m.get roomId := rfl

/-- Only the session of the object is looked at. -/
theorem modifySession_of_object {m : GameSessionManager R} {id : SessionId} {o : SessionObject R}
    (h : m.object id = some o) (f : GameSession R → GameSession R) :
    m.modifySession id (fun _ => f o.session) = m.modifySession id f := by
  unfold modifySession modify
  congr 1
  refine List.ext_getElem? fun j => ?_
  rw [List.getElem?_modify, List.getElem?_modify]
  by_cases hj : id = j
  · subst hj
    rw [show m.objects[id]? = some o from h]
    rfl
  · simp [hj]

theorem modifySession_eq_self (m : GameSessionManager R) (id : SessionId)
    (f : GameSession R → GameSession R) :
    m.modifySession id f = m ↔ ∀ o, m.object id = some o → f o.session = o.session := by
  constructor
  · intro h o ho
    have hobject := object_modifySession m id f id
    rw [h, if_pos rfl, ho] at hobject
    exact (congrArg SessionObject.session (Option.some.inj hobject)).symm
  · intro h
    unfold modifySession modify
    suffices hobjects : m.objects.modify id (fun o => { o with session := f o.session }) =
        m.objects by rw [hobjects]
    refine List.ext_getElem? fun j => ?_
    rw [List.getElem?_modify]
    by_cases hj : id = j
    · subst hj
      cases ho : m.objects[id]? with
      | none => rfl
      | some o =>
        simp only [if_pos, Option.map_eq_map, Option.map_some, h o ho]
    · simp [hj]

theorem getOrCreate_of_some {m : GameSessionManager R} {roomId : String} {id : SessionId}
    (h : m.get roomId = some id) : m.getOrCreate roomId = (m, id) := by
  unfold getOrCreate
  rw [show m.sessions.get roomId = some id from h]

theorem get_getOrCreate (m : GameSessionManager R) (roomId j : String) :
    (m.getOrCreate roomId).1.get j =
      if j = roomId then some (m.getOrCreate roomId).2 else m.get j := by
  cases h : m.sessions.get roomId with
  | some id =>
    simp only [getOrCreate, h, get]
    split
    next hj => rw [hj, h]
    next => rfl
  | none =>
    simp only [getOrCreate, h, get]
    exact JsMap.get_set _ _ _ _

theorem object_getOrCreate (m : GameSessionManager R) (roomId : String) (j : SessionId) :
    (m.getOrCreate roomId).1.object j =
      if m.get roomId = none ∧ j = m.objects.length then
        some ⟨GameSession.create roomId, true, []⟩
      else m.object j := by
  cases h : m.sessions.get roomId with
  | some id => simp [getOrCreate, h, get]
  | none =>
    simp only [getOrCreate, h, get, object]
    rcases Nat.lt_trichotomy j m.objects.length with hlt | heq | hgt
    · rw [List.getElem?_append_left hlt, if_neg fun hj => Nat.ne_of_lt hlt hj.2]
    · simp [heq]
    · have hlong : (m.objects ++ [(⟨GameSession.create roomId, true, []⟩ : SessionObject R)]).length
          ≤ j := by
        rw [List.length_append, List.length_singleton]
        omega
      rw [if_neg fun hj => Nat.ne_of_gt hgt hj.2, List.getElem?_eq_none hlong,
        List.getElem?_eq_none (Nat.le_of_lt hgt)]

end GameSessionManager
end RealtimeGameServer.Source
