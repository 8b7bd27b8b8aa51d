import RealtimeGameServer.Source.RedisStore

/-!
# What the services read back

Presence, the session cache and the rate limiter write to one Redis, in any order, beside
other clients, while expired keys are dropped at any moment. A player is online while the
last presence call was an online one less than a minute ago; the cache returns what was
cached last and has not run out, as JSON reads it back; and the limiter decides as if it
had a Redis of its own.
-/
namespace RealtimeGameServer.Guarantees.SharedRedis
open Lib ExpiringStore Source RedisStore

/-- The events follow the clock, up to `now`, and the other clients keep to other keys. -/
structure Regular (events : List RedisEvent) (now : Int) : Prop where
  ordered : events.Pairwise fun earlier later => earlier.now ≤ later.now
  past : ∀ event ∈ events, event.now ≤ now
  allowed : ∀ event ∈ events, event.Allowed

/-- Until when an event says that the player is online; `some none` says offline. -/
def onlineUntil (playerId : String) : RedisEvent → Option (Option Int)
  | .call now (.setOnline other _ _) | .call now (.heartbeat other _ _) =>
    if other = playerId then some (some (now + milliseconds presenceSeconds)) else none
  | .call _ (.setOffline other) => if other = playerId then some none else none
  | _ => none

/-- What an event caches for the session, and until when; `some none` deletes it. -/
def cachedUntil (sessionId : String) : RedisEvent → Option (Option (Record × Int))
  | .call now (.cacheSet other data ttlSeconds) =>
    if other = sessionId ∧ 0 < ttlSeconds then some (some (data, now + milliseconds ttlSeconds))
    else none
  | .call _ (.cacheDelete other) => if other = sessionId then some none else none
  | _ => none

theorem presenceKey_inj {p q : String} : presenceKey p = presenceKey q ↔ p = q :=
  String.append_right_inj _

theorem sessionKey_inj {s t : String} : sessionKey s = sessionKey t ↔ s = t :=
  String.append_right_inj _

theorem limitKey_inj {k l : String} : limitKey k = limitKey l ↔ k = l :=
  String.append_right_inj _

theorem head_append {a b : String} {c : Char} (rest : List Char) (h : a.toList = c :: rest) :
    (a ++ b).toList.head? = some c := by
  rw [String.toList_append, h]
  rfl

theorem presenceKey_head (p : String) : (presenceKey p).toList.head? = some 'p' :=
  head_append "resence:".toList rfl

theorem sessionKey_head (s : String) : (sessionKey s).toList.head? = some 's' :=
  head_append "ession:".toList rfl

theorem limitKey_head (k : String) : (limitKey k).toList.head? = some 'r' :=
  head_append "atelimit:".toList rfl

theorem ne_of_heads {a b : String} {c d : Char} (ha : a.toList.head? = some c)
    (hb : b.toList.head? = some d) (hne : c ≠ d) : a ≠ b := by
  rintro rfl
  exact hne (Option.some.inj (ha.symm.trans hb))

/-- The command of an event, if it is on the key. -/
def on (key : String) (event : RedisEvent) : Option (Command String RedisValue Int) :=
  (event.event.bind Event.command?).filter fun command => command.key = key

theorem commandsOn_events (key : String) (events : List RedisEvent) :
    commandsOn key (events.filterMap RedisEvent.event) = events.filterMap (on key) := by
  unfold commandsOn on
  rw [List.filterMap_filterMap, ← List.filterMap_eq_filter, List.filterMap_filterMap]
  refine List.filterMap_congr fun event _ => ?_
  cases event.event.bind Event.command? <;> rfl

theorem Regular.peek {events : List RedisEvent} {now : Int} (h : Regular events now)
    {db reached : Database} (hexec : database.exec db events = some reached) (key : String) :
    ExpiringStore.peek reached now key =
      living now (replay (db.get key) (events.filterMap (on key))) := by
  rw [exec_events] at hexec
  rw [← commandsOn_events]
  refine peek_exec ?_ ?_ hexec key
  · refine List.pairwise_filterMap.mpr (h.ordered.imp ?_)
    intro a b hab e he f hf
    rw [now_of_event he, now_of_event hf]
    exact hab
  · intro e he
    obtain ⟨event, hmem, hevent⟩ := List.mem_filterMap.mp he
    rw [now_of_event hevent]
    exact h.past event hmem

/-- Where the commands on a key do not look at what they find, the last of them decides. -/
theorem Regular.last {events : List RedisEvent} {now : Int} (h : Regular events now)
    {db reached : Database} (hexec : database.exec db events = some reached) {key : String}
    {α : Type} {left : RedisEvent → Option α}
    {leaves : α → Option (Entry RedisValue Int) → Prop}
    (hleft : ∀ event, event.Allowed → (left event = none ∧ on key event = none) ∨
      ∃ a c entry, left event = some a ∧ on key event = some c ∧ (∀ found, c.act found = entry) ∧
        leaves a entry) :
    ∃ entry, ExpiringStore.peek reached now key = living now entry ∧
      (((events.filterMap left).getLast? = none ∧ entry = db.get key) ∨
        ∃ a, (events.filterMap left).getLast? = some a ∧ leaves a entry) := by
  rw [h.peek hexec]
  refine ⟨_, rfl, ?_⟩
  have hallowed := h.allowed
  clear h hexec
  induction events using List.reverseRecOn with
  | nil => exact Or.inl ⟨rfl, rfl⟩
  | append_singleton front last ih =>
    have hlast := hleft last (hallowed last (List.mem_append_right _ (List.mem_singleton_self last)))
    rw [List.filterMap_append, List.filterMap_append]
    rcases hlast with ⟨hnone, hsilent⟩ | ⟨a, c, entry, hsome, hcommand, hact, hleaves⟩
    · simp only [List.filterMap_cons, List.filterMap_nil, hnone, hsilent, List.append_nil]
      exact ih fun event hmem => hallowed event (List.mem_append_left _ hmem)
    · simp only [List.filterMap_cons, List.filterMap_nil, hsome, hcommand]
      rw [replay, List.foldl_append, List.getLast?_concat]
      refine Or.inr ⟨a, rfl, ?_⟩
      change leaves a (c.act _)
      rw [hact]
      exact hleaves

theorem on_key {key : String} {event : RedisEvent} {c : Command String RedisValue Int}
    (hevent : event.event = some (.command c)) :
    on key event = if c.key = key then some c else none := by
  rw [on, hevent, Option.bind_some, Event.command?, Option.filter_some]
  exact if_congr decide_eq_true_iff rfl rfl

theorem on_ne {key : String} {event : RedisEvent}
    (h : ∀ c, event.event = some (.command c) → c.key ≠ key) : on key event = none := by
  rw [on, Option.filter_eq_none_iff]
  intro c hc
  obtain ⟨e, he, hcommand⟩ := Option.bind_eq_some_iff.mp hc
  cases e with
  | command c' =>
    cases hcommand
    simpa using h c he
  | expire => cases hcommand

/-- What a presence call leaves under the player's key. -/
def LeavesPresence : Option Int → Option (Entry RedisValue Int) → Prop
  | none, entry => entry = none
  | some limit, entry => ∃ value, entry = some ⟨value, some limit⟩

theorem presence_left (playerId : String) (event : RedisEvent) (hallowed : event.Allowed) :
    (onlineUntil playerId event = none ∧ on (presenceKey playerId) event = none) ∨
      ∃ limit c entry, onlineUntil playerId event = some limit ∧
        on (presenceKey playerId) event = some c ∧ (∀ found, c.act found = entry) ∧
        LeavesPresence limit entry := by
  have hset : ∀ now other roomId lastSeen,
      event.event = some (.command (setOnline now other roomId lastSeen)) →
      onlineUntil playerId event =
        (if other = playerId then some (some (now + milliseconds presenceSeconds)) else none) →
      (onlineUntil playerId event = none ∧ on (presenceKey playerId) event = none) ∨
        ∃ limit c entry, onlineUntil playerId event = some limit ∧
          on (presenceKey playerId) event = some c ∧ (∀ found, c.act found = entry) ∧
          LeavesPresence limit entry := by
    intro now other roomId lastSeen hevent honline
    rw [on_key hevent, honline]
    by_cases hsame : other = playerId
    · subst hsame
      exact Or.inr ⟨_, _, _, if_pos rfl, if_pos rfl, fun _ => rfl, _, rfl⟩
    · refine Or.inl ⟨if_neg hsame, if_neg fun hkey => hsame ?_⟩
      exact presenceKey_inj.mp hkey
  cases event with
  | call now request =>
    cases request with
    | setOnline other roomId lastSeen => exact hset now other roomId lastSeen rfl rfl
    | heartbeat other roomId lastSeen => exact hset now other roomId lastSeen rfl rfl
    | setOffline other =>
      have hevent : (RedisEvent.call now (.setOffline other) : RedisEvent).event =
        some (.command (del now (presenceKey other))) := rfl
      rw [on_key hevent]
      by_cases hsame : other = playerId
      · subst hsame
        exact Or.inr ⟨none, _, none, if_pos rfl, if_pos rfl, fun _ => rfl, rfl⟩
      · refine Or.inl ⟨if_neg hsame, if_neg fun hkey => hsame ?_⟩
        exact presenceKey_inj.mp hkey
    | cacheSet sessionId data ttlSeconds =>
      refine Or.inl ⟨rfl, on_ne fun c hc => ?_⟩
      simp only [RedisEvent.event, command, Option.map_eq_some_iff, Option.ite_none_right_eq_some,
        Option.some.injEq, Event.command.injEq, exists_eq_right] at hc
      rw [← hc.2]
      exact ne_of_heads (sessionKey_head sessionId) (presenceKey_head playerId) (by decide)
    | cacheDelete sessionId =>
      refine Or.inl ⟨rfl, on_ne fun c hc => ?_⟩
      cases hc
      exact ne_of_heads (sessionKey_head sessionId) (presenceKey_head playerId) (by decide)
    | consume key limit windowSeconds =>
      refine Or.inl ⟨rfl, on_ne fun c hc => ?_⟩
      cases hc
      exact ne_of_heads (limitKey_head key) (presenceKey_head playerId) (by decide)
  | expire now key =>
    exact Or.inl ⟨rfl, on_ne fun c hc => by cases hc⟩
  | foreign command =>
    refine Or.inl ⟨rfl, on_ne fun c hc hkey => hallowed (Or.inl ⟨playerId, ?_⟩)⟩
    cases hc
    exact hkey

/-- The last presence call decides. -/
theorem Regular.isOnline {events : List RedisEvent} {now : Int} (h : Regular events now)
    {db reached : Database} (hexec : database.exec db events = some reached) {playerId : String}
    {last : Option Int} (hlast : (events.filterMap (onlineUntil playerId)).getLast? = some last) :
    isOnline reached now playerId = true ↔ ∃ limit, last = some limit ∧ now < limit := by
  obtain ⟨entry, hpeek, hleft⟩ := h.last hexec (presence_left playerId)
  rw [RedisStore.isOnline, hpeek]
  rcases hleft with ⟨hnone, -⟩ | ⟨limit, hsome, hleaves⟩
  · cases hnone.symm.trans hlast
  · cases hsome.symm.trans hlast
    cases last with
    | none =>
      cases hleaves
      simp
    | some limit =>
      obtain ⟨value, rfl⟩ := hleaves
      rw [living_of_expiresAt]
      split
      next hlive => exact iff_of_true rfl ⟨limit, rfl, hlive⟩
      next hdead =>
        refine iff_of_false (fun h => by cases h) ?_
        rintro ⟨limit', hsame, hlive⟩
        cases hsame
        exact hdead hlive

/-- A player of whom Redis never heard. -/
theorem Regular.offline {events : List RedisEvent} {now : Int} (h : Regular events now)
    {db reached : Database} (hexec : database.exec db events = some reached) {playerId : String}
    (habsent : db.get (presenceKey playerId) = none)
    (hsilent : (events.filterMap (onlineUntil playerId)).getLast? = none) :
    RedisStore.isOnline reached now playerId = false := by
  obtain ⟨entry, hpeek, hleft⟩ := h.last hexec (presence_left playerId)
  rw [RedisStore.isOnline, hpeek]
  rcases hleft with ⟨-, rfl⟩ | ⟨_, hsome, -⟩
  · rw [habsent]
    rfl
  · cases hsilent.symm.trans hsome

/-- A player is online if and only if the last presence call of that player was an online one,
less than a minute ago. -/
theorem online_iff {events : List RedisEvent} {now : Int} (h : Regular events now)
    {db reached : Database} (hexec : database.exec db events = some reached) {playerId : String}
    (habsent : db.get (presenceKey playerId) = none) :
    isOnline reached now playerId = true ↔
      ∃ limit, (events.filterMap (onlineUntil playerId)).getLast? = some (some limit) ∧
        now < limit := by
  cases hlast : (events.filterMap (onlineUntil playerId)).getLast? with
  | none =>
    rw [h.offline hexec habsent hlast]
    simp
  | some last =>
    rw [h.isOnline hexec hlast]
    simp only [Option.some.injEq]

/-- A player connects; a session is cached, runs out and is dropped. -/
def connected : List RedisEvent :=
  [.call 0 (.setOnline "p1" none 0), .call 10 (.cacheSet "s1" (fun _ => none) 5),
    .expire 5010 (sessionKey "s1")]

theorem online_for_a_minute : ∃ reached, database.exec JsMap.empty connected = some reached ∧
    isOnline reached 59999 "p1" = true ∧ ¬isOnline reached 60000 "p1" = true := by
  have hrun : (database.exec JsMap.empty connected).isSome := by decide
  obtain ⟨reached, hreached⟩ := Option.isSome_iff_exists.mp hrun
  have hregular : ∀ now, 5010 ≤ now → Regular connected now := by
    intro now hnow
    have htimes : connected.map RedisEvent.now = [0, 10, 5010] := rfl
    constructor
    case ordered =>
      rw [← List.pairwise_map (f := RedisEvent.now) (R := (· ≤ ·)), htimes]
      decide
    case past =>
      intro event hmem
      have htime := List.mem_map_of_mem (f := RedisEvent.now) hmem
      simp only [htimes, List.mem_cons, List.not_mem_nil, or_false] at htime
      omega
    case allowed =>
      intro event hmem
      simp only [connected, List.mem_cons, List.not_mem_nil, or_false] at hmem
      rcases hmem with rfl | rfl | rfl <;> trivial
  refine ⟨reached, hreached, ?_, ?_⟩
  · exact (online_iff (hregular 59999 (by decide)) hreached rfl).mpr ⟨60000, rfl, by decide⟩
  · intro honline
    obtain ⟨limit, hlimit, hlive⟩ := (online_iff (hregular 60000 (by decide)) hreached rfl).mp honline
    cases hlimit
    exact absurd hlive (by decide)

def LeavesCached : Option (Record × Int) → Option (Entry RedisValue Int) → Prop
  | none, entry => entry = none
  | some (data, limit), entry => entry = some ⟨stringify data, some limit⟩

theorem cache_left (sessionId : String) (event : RedisEvent) (hallowed : event.Allowed) :
    (cachedUntil sessionId event = none ∧ on (sessionKey sessionId) event = none) ∨
      ∃ cached c entry, cachedUntil sessionId event = some cached ∧
        on (sessionKey sessionId) event = some c ∧ (∀ found, c.act found = entry) ∧
        LeavesCached cached entry := by
  have hpresence : ∀ c : Command String RedisValue Int, ∀ playerId,
      c.key = presenceKey playerId → c.key ≠ sessionKey sessionId := by
    intro c playerId hkey
    rw [hkey]
    exact ne_of_heads (presenceKey_head playerId) (sessionKey_head sessionId) (by decide)
  cases event with
  | call now request =>
    cases request with
    | setOnline playerId roomId lastSeen | heartbeat playerId roomId lastSeen =>
      refine Or.inl ⟨rfl, on_ne fun c hc => hpresence c playerId ?_⟩
      cases hc
      rfl
    | setOffline playerId =>
      refine Or.inl ⟨rfl, on_ne fun c hc => hpresence c playerId ?_⟩
      cases hc
      rfl
    | cacheSet other data ttlSeconds =>
      by_cases hpositive : 0 < ttlSeconds
      · have hevent : (RedisEvent.call now (.cacheSet other data ttlSeconds) : RedisEvent).event =
            some (.command (setEx now (sessionKey other) (stringify data) ttlSeconds)) := by
          simp [RedisEvent.event, command, hpositive]
        rw [on_key hevent]
        by_cases hsame : other = sessionId
        · subst hsame
          exact Or.inr ⟨_, _, _, if_pos ⟨rfl, hpositive⟩, if_pos rfl, fun _ => rfl, rfl⟩
        · refine Or.inl ⟨if_neg fun h => hsame h.1, if_neg fun hkey => hsame ?_⟩
          exact sessionKey_inj.mp hkey
      · have hevent : (RedisEvent.call now (.cacheSet other data ttlSeconds) : RedisEvent).event =
            none := by simp [RedisEvent.event, command, hpositive]
        refine Or.inl ⟨if_neg fun h => hpositive h.2, on_ne fun c hc => ?_⟩
        cases hevent.symm.trans hc
    | cacheDelete other =>
      have hevent : (RedisEvent.call now (.cacheDelete other) : RedisEvent).event =
        some (.command (del now (sessionKey other))) := rfl
      rw [on_key hevent]
      by_cases hsame : other = sessionId
      · subst hsame
        exact Or.inr ⟨none, _, none, if_pos rfl, if_pos rfl, fun _ => rfl, rfl⟩
      · refine Or.inl ⟨if_neg hsame, if_neg fun hkey => hsame ?_⟩
        exact sessionKey_inj.mp hkey
    | consume key limit windowSeconds =>
      refine Or.inl ⟨rfl, on_ne fun c hc => ?_⟩
      cases hc
      exact ne_of_heads (limitKey_head key) (sessionKey_head sessionId) (by decide)
  | expire now key =>
    exact Or.inl ⟨rfl, on_ne fun c hc => by cases hc⟩
  | foreign command =>
    refine Or.inl ⟨rfl, on_ne fun c hc hkey => hallowed (Or.inr (Or.inl ⟨sessionId, ?_⟩))⟩
    cases hc
    exact hkey

/-- The cache returns the object that was cached last, as JSON reads it back, until it runs
out or is deleted. -/
theorem cacheGet_last {events : List RedisEvent} {now : Int} (h : Regular events now)
    {db reached : Database} (hexec : database.exec db events = some reached) {sessionId : String}
    (habsent : db.get (sessionKey sessionId) = none) :
    cacheGet reached now sessionId =
      match (events.filterMap (cachedUntil sessionId)).getLast? with
      | some (some (data, limit)) => if now < limit then some (Json.throughText (.obj data)) else none
      | _ => none := by
  obtain ⟨entry, hpeek, hlast⟩ := h.last hexec (cache_left sessionId)
  rw [cacheGet, hpeek]
  rcases hlast with ⟨hnone, rfl⟩ | ⟨cached, hsome, hleaves⟩
  · rw [hnone, habsent]
    rfl
  · rw [hsome]
    cases cached with
    | none =>
      cases hleaves
      rfl
    | some cached =>
      obtain ⟨data, limit⟩ := cached
      cases hleaves
      rw [living_of_expiresAt]
      dsimp only
      split <;> rfl

/-- A session that is cached for an hour, and anew for five seconds. -/
def recached : List RedisEvent :=
  [.call 0 (.cacheSet "s1" (fun _ => none) 3600),
    .call 10 (.cacheSet "s1" (fun key => if key = "room" then some (.str "arena") else none) 5)]

theorem cached_until_it_runs_out : ∃ reached, database.exec JsMap.empty recached = some reached ∧
    cacheGet reached 5009 "s1" = some (Json.throughText
      (.obj fun key => if key = "room" then some (.str "arena") else none)) ∧
    cacheGet reached 5010 "s1" = none := by
  have hregular : ∀ now, 10 ≤ now → Regular recached now := by
    intro now hnow
    constructor <;> simp [recached, RedisEvent.now, RedisEvent.Allowed]
    omega
  have hrun : (database.exec JsMap.empty recached).isSome := by decide
  obtain ⟨reached, hreached⟩ := Option.isSome_iff_exists.mp hrun
  refine ⟨reached, hreached, ?_, ?_⟩
  · exact cacheGet_last (hregular 5009 (by decide)) hreached rfl
  · exact cacheGet_last (hregular 5010 (by decide)) hreached rfl

end RealtimeGameServer.Guarantees.SharedRedis
