import RealtimeGameServer.Lib.ExpiringStore
import RealtimeGameServer.Source.JsonText
import RealtimeGameServer.Source.RateLimiter

/-!
# One Redis for presence, sessions and rate limits

Source: infrastructure/redis/redis-client.ts. The three services share a connection, and
each has its own prefix of the keys. Redis runs one command or script at a time and drops
an expired key when it likes; other clients of it, such as the HTTP rate limiter, use other
keys. Times are milliseconds, as Redis keeps them. A text is kept as the value it reads
back as.
-/
namespace RealtimeGameServer.Source
open Lib ExpiringStore

/-- What a key holds: the text of an object, or a number that `INCR` counts. -/
inductive RedisValue where
  | text (value : Json JsNumber)
  | count (value : Nat)

namespace RedisStore
abbrev Database := Store String RedisValue Int

/-- `Record<string, unknown>`; `none` is a member that is `undefined` or absent. -/
abbrev Record := String → Option (Json JsNumber)

/-- `JSON.stringify` of an object. -/
def stringify (data : Record) : RedisValue := .text (Json.throughText (.obj data))

def milliseconds (seconds : Int) : Int := 1000 * seconds

/-- `SET key value EX seconds`. -/
def setEx (now : Int) (key : String) (value : RedisValue) (seconds : Int) :
    Command String RedisValue Int where
  key
  now
  act _ := some ⟨value, some (now + milliseconds seconds)⟩

/-- `DEL`. -/
def del (now : Int) (key : String) : Command String RedisValue Int where
  key
  now
  act _ := none

/-- The script of the rate limiter. `INCR` fails on a text and leaves it. -/
def countUp (now : Int) (key : String) (seconds : Int) : Command String RedisValue Int where
  key
  now
  act
    | none => some ⟨.count 1, some (now + milliseconds seconds)⟩
    | some ⟨.count value, expiresAt⟩ => some ⟨.count (value + 1), expiresAt⟩
    | some entry => some entry

def presenceKey (playerId : String) : String := "presence:" ++ playerId

def sessionKey (sessionId : String) : String := "session:" ++ sessionId

def limitKey (key : String) : String := RateLimiter.redisKey key

/-- What `setOnline` writes; `lastSeen` is `Date.now()`. -/
def presencePayload (playerId : String) (roomId : Option String) (lastSeen : Int) :
    Record := fun key =>
  if key = "playerId" then some (.str playerId)
  else if key = "roomId" then some (roomId.elim .null .str)
  else if key = "lastSeen" then some (.num (JsNumber.ofTime lastSeen))
  else none

def presenceSeconds : Int := 60

/-- The calls of the services that write. -/
inductive Call where
  | setOnline (playerId : String) (roomId : Option String) (lastSeen : Int)
  | heartbeat (playerId : String) (roomId : Option String) (lastSeen : Int)
  | setOffline (playerId : String)
  | cacheSet (sessionId : String) (data : Record) (ttlSeconds : Int)
  | cacheDelete (sessionId : String)
  | consume (key : String) (limit : Nat) (windowSeconds : Int)

def setOnline (now : Int) (playerId : String) (roomId : Option String) (lastSeen : Int) :
    Command String RedisValue Int :=
  setEx now (presenceKey playerId) (stringify (presencePayload playerId roomId lastSeen))
    presenceSeconds

/-- The command of a call. Redis refuses a `SET` that expires at once or in the past, and
writes nothing. -/
def command (now : Int) : Call → Option (Command String RedisValue Int)
  | .setOnline playerId roomId lastSeen => some (setOnline now playerId roomId lastSeen)
  | .heartbeat playerId roomId lastSeen => some (setOnline now playerId roomId lastSeen)
  | .setOffline playerId => some (del now (presenceKey playerId))
  | .cacheSet sessionId data ttlSeconds =>
    if 0 < ttlSeconds then some (setEx now (sessionKey sessionId) (stringify data) ttlSeconds)
    else none
  | .cacheDelete sessionId => some (del now (sessionKey sessionId))
  | .consume key _ windowSeconds => some (countUp now (limitKey key) windowSeconds)

/-- `isOnline`. -/
def isOnline (db : Database) (now : Int) (playerId : String) : Bool :=
  (peek db now (presenceKey playerId)).isSome

/-- `RedisSessionCache.get`. No text is empty, so `!raw` is a missing key. -/
def cacheGet (db : Database) (now : Int) (sessionId : String) :
    Option (Json JsNumber) :=
  (peek db now (sessionKey sessionId)).map fun entry =>
    match entry.value with
    | .text value => value
    | .count value => .num (JsNumber.ofCount value)

/-- What `consume` resolves to; `none` where the script fails. -/
def consumed (db : Database) (now : Int) (key : String) (limit : Nat) :
    Option RateLimiter.Consumed :=
  match peek db now (limitKey key) with
  | none => some ⟨1 ≤ limit, limit - 1⟩
  | some ⟨.count value, _⟩ => some ⟨value + 1 ≤ limit, limit - (value + 1)⟩
  | some ⟨.text _, _⟩ => none

/-- The keys of the services. -/
def Ours (key : String) : Prop :=
  (∃ playerId, key = presenceKey playerId) ∨ (∃ sessionId, key = sessionKey sessionId) ∨
    ∃ other, key = limitKey other

inductive RedisEvent where
  | call (now : Int) (call : Call)
  /-- Redis drops a key that has expired. -/
  | expire (now : Int) (key : String)
  /-- A command of another client. -/
  | foreign (command : Command String RedisValue Int)

def RedisEvent.now : RedisEvent → Int
  | .call now _ => now
  | .expire now _ => now
  | .foreign command => command.now

/-- The event of the store, if there is one. -/
def RedisEvent.event : RedisEvent → Option (Event String RedisValue Int)
  | .call now request => (command now request).map .command
  | .expire now key => some (.expire now key)
  | .foreign command => some (.command command)

/-- The other clients keep to other keys. -/
def RedisEvent.Allowed : RedisEvent → Prop
  | .foreign command => ¬Ours command.key
  | _ => True

def database : Machine Database RedisEvent where
  step db event :=
    match event.event with
    | none => some db
    | some event => ExpiringStore.machine.step db event

theorem exec_events {events : List RedisEvent} {db : Database} :
    database.exec db events = ExpiringStore.machine.exec db (events.filterMap RedisEvent.event) := by
  induction events generalizing db with
  | nil => rfl
  | cons event rest ih =>
    rw [Machine.exec, List.filterMap_cons]
    change ((match event.event with
      | none => some db
      | some event => ExpiringStore.machine.step db event).bind fun db => database.exec db rest) = _
    cases event.event with
    | none => exact ih
    | some event =>
      rw [Machine.exec]
      exact Option.bind_congr fun db _ => ih

theorem now_of_event {event : RedisEvent} {e : Event String RedisValue Int}
    (h : event.event = some e) : e.now = event.now := by
  cases event with
  | call now request =>
    obtain ⟨c, hc, rfl⟩ := Option.map_eq_some_iff.mp h
    change c.now = now
    cases request with
    | cacheSet sessionId data ttlSeconds =>
      simp only [command, Option.ite_none_right_eq_some, Option.some.injEq] at hc
      rw [← hc.2]
      rfl
    | _ =>
      cases hc
      rfl
  | expire now key =>
    cases h
    rfl
  | foreign command =>
    cases h
    rfl

end RedisStore
end RealtimeGameServer.Source
