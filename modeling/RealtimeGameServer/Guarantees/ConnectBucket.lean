import Mathlib.Algebra.Order.Ring.Rat
import Mathlib.Data.List.TakeWhile
import RealtimeGameServer.Guarantees.RateLimit
import RealtimeGameServer.Source.GatewayServer

/-!
# The bucket of a connection attempt

A trusted proxy appends the address of its peer to the `X-Forwarded-For` value it has
received, and `clientIp` reads the first entry, which is the client's own wherever the
client has sent one. The requests of a peer share a bucket, whatever else their headers
hold, exactly as long as they all name one address; then no minute has more than twice the
limit of its accepted attempts.
-/
namespace RealtimeGameServer.Guarantees.ConnectBucket
open Lib Source RateLimiter
open RateLimit (allowedCalls AsksFor allowedCalls_eq results_of_key)

/-- The text of a network address. -/
structure Address where
  text : String
  nonempty : text ≠ ""
  plain : ∀ c ∈ text.toList, c ≠ ',' ∧ isJsSpace c = false
  deriving DecidableEq

/-- The header values of an upgrade request that the client supplies. -/
structure ClientHeaders where
  forwardedFor : Option String
  authorization : Option String

/-- The request that reaches the gateway through a proxy that appends its peer. -/
def throughProxy (proxy peer : Address) (url : Option String) (sent : ClientHeaders) :
    Request where
  forwardedFor := some (match sent.forwardedFor with
    | none => peer.text
    | some value => value ++ ", " ++ peer.text)
  remoteAddress := some proxy.text
  authorization := sent.authorization
  url

/-- `value.split(',')[0].trim()`. -/
def firstEntry (value : String) : String :=
  trim (String.ofList (value.toList.takeWhile (· ≠ ',')))

/-- The address that a request names: the peer's own without an `X-Forwarded-For` of the
client, and otherwise the first entry, which stands for the proxy when it is empty. -/
def named (proxy peer : Address) (sent : ClientHeaders) : String :=
  match sent.forwardedFor with
  | none => peer.text
  | some value => orElse (firstEntry value) proxy.text

/-- All requests name one address. -/
def OneAddress (proxy peer : Address) (values : Set ClientHeaders) : Prop :=
  ∀ a ∈ values, ∀ b ∈ values, named proxy peer a = named proxy peer b

theorem dropWhile_eq_self {α : Type*} {p : α → Bool} {l : List α} (h : ∀ a ∈ l, p a = false) :
    l.dropWhile p = l := by
  cases l with
  | nil => rfl
  | cons a rest => rw [List.dropWhile_cons_of_neg (by simp [h a List.mem_cons_self])]

theorem trim_eq_self {s : String} (h : ∀ c ∈ s.toList, isJsSpace c = false) : trim s = s := by
  rw [trim, dropWhile_eq_self h,
    dropWhile_eq_self fun c hc => h c (List.mem_reverse.mp hc), List.reverse_reverse,
    String.ofList_toList]

theorem firstEntry_address (a : Address) : firstEntry a.text = a.text := by
  have hkept : a.text.toList.takeWhile (· ≠ ',') = a.text.toList := by
    rw [List.takeWhile_eq_self_iff]
    exact fun c hc => decide_eq_true (a.plain c hc).1
  rw [firstEntry, hkept, String.ofList_toList, trim_eq_self fun c hc => (a.plain c hc).2]

/-- What the proxy appends does not reach the first entry. -/
theorem firstEntry_append (value appended : String) :
    firstEntry (value ++ ", " ++ appended) = firstEntry value := by
  have hcomma : (", " ++ appended).toList = ',' :: ' ' :: appended.toList := by
    rw [String.toList_append]
    rfl
  rw [firstEntry, firstEntry, String.append_assoc, String.toList_append, hcomma,
    List.takeWhile_append]
  split
  next hlength =>
    have hwhole : value.toList.takeWhile (· ≠ ',') = value.toList :=
      List.takeWhile_prefix _ |>.eq_of_length hlength
    rw [hwhole, List.takeWhile_cons_of_neg (by simp), List.append_nil]
  next => rfl

section Gateway
variable {R : Type} [Field R] [LinearOrder R]

/-- The call of `rateLimiter.consume` that `handleConnection` begins with. -/
def connectCall (env : Env R) (request : Request) : ExternalCall :=
  .consume ("ws-connect:" ++ clientIp env request) env.wsConnectRateLimitPerMinute 60

/-- A connection awaits this call first. -/
theorem connect_awaits [JsMath R] {env : Env R} {s t : Server R} {socket : SocketId}
    {request : Request} (h : s.connect env socket request = some t) :
    t.handlers.get s.started =
      some ⟨.connection socket .ipLimited, connectCall env request⟩ := by
  unfold Server.connect at h
  split at h
  next => cases h
  next =>
    cases h
    exact JsMap.get_set_self _ _ _

theorem clientIp_throughProxy {env : Env R} (htrust : env.trustProxy = true)
    (proxy peer : Address) (url : Option String) (sent : ClientHeaders) :
    clientIp env (throughProxy proxy peer url sent) = named proxy peer sent := by
  have hremote : orElse proxy.text "unknown" = proxy.text := if_neg proxy.nonempty
  unfold named
  cases hsent : sent.forwardedFor with
  | none =>
    have hpeer : orElse (firstEntry peer.text) proxy.text = peer.text := by
      rw [firstEntry_address]
      exact if_neg peer.nonempty
    simp only [clientIp, throughProxy, hsent, Option.getD_some, hremote]
    rw [if_pos ⟨peer.nonempty, htrust⟩]
    exact hpeer
  | some value =>
    have hnonempty : value ++ ", " ++ peer.text ≠ "" := by
      intro hempty
      have hlists := congrArg String.toList hempty
      simp at hlists
    simp only [clientIp, throughProxy, hsent, Option.getD_some, hremote]
    rw [if_pos ⟨hnonempty, htrust⟩]
    exact congrArg (orElse · proxy.text) (firstEntry_append value peer.text)

/-- The calls of the limiter that the gateway makes: for a connection attempt and for a
message of a connected player. Times are in seconds. -/
inductive GatewayCall where
  | connect (now : ℚ) (peer : Address) (url : Option String) (sent : ClientHeaders)
  | message (now : ℚ) (playerId : String)

def GatewayCall.now : GatewayCall → ℚ
  | .connect now _ _ _ => now
  | .message now _ => now

def consumed (env : Env R) (proxy : Address) : GatewayCall → Call ℚ
  | .connect now peer url sent =>
    ⟨now, "ws-connect:" ++ clientIp env (throughProxy proxy peer url sent),
      env.wsConnectRateLimitPerMinute, 60⟩
  | .message now playerId => ⟨now, "ws:" ++ playerId, env.wsRateLimitPerSecond, 1⟩

/-- The arguments are those of the call that the connection awaits. -/
theorem connectCall_eq (env : Env R) (proxy : Address) (now : ℚ) (peer : Address)
    (url : Option String) (sent : ClientHeaders) :
    ∃ limit seconds : Nat,
      connectCall env (throughProxy proxy peer url sent) =
        .consume (consumed env proxy (.connect now peer url sent)).key limit seconds ∧
      (consumed env proxy (.connect now peer url sent)).limit = limit ∧
      (consumed env proxy (.connect now peer url sent)).windowSeconds = seconds :=
  ⟨_, 60, rfl, rfl, by norm_num [consumed]⟩

/-- The calls with what the limiter returns. -/
def outcomes (env : Env R) (proxy : Address) :
    Redis ℚ → List GatewayCall → List (GatewayCall × Consumed)
  | _, [] => []
  | redis, call :: rest =>
    let result := consume redis (consumed env proxy call)
    (call, result.2) :: outcomes env proxy result.1 rest

/-- An attempt of the peer that the limiter lets through, in the minute from `start` on. -/
def acceptedFrom (peer : Address) (start : ℚ) : GatewayCall × Consumed → Bool
  | (.connect now client _ _, result) =>
    client = peer && result.allowed && start ≤ now && now < start + 60
  | (.message _ _, _) => false

theorem outcomes_fst (env : Env R) (proxy : Address) (redis : Redis ℚ)
    (calls : List GatewayCall) : (outcomes env proxy redis calls).map Prod.fst = calls := by
  induction calls generalizing redis with
  | nil => rfl
  | cons call rest ih => rw [outcomes, List.map_cons, ih]

theorem outcomes_results (env : Env R) (proxy : Address) (redis : Redis ℚ)
    (calls : List GatewayCall) :
    (outcomes env proxy redis calls).map (fun o => (consumed env proxy o.1, o.2)) =
      results redis (calls.map (consumed env proxy)) := by
  induction calls generalizing redis with
  | nil => rfl
  | cons call rest ih => rw [outcomes, List.map_cons, List.map_cons, results, ih]

/-- Only connection attempts use the keys of connection attempts. -/
theorem asksFor_connect (env : Env R) (proxy : Address) (ip : String)
    (calls : List GatewayCall) :
    AsksFor ("ws-connect:" ++ ip) env.wsConnectRateLimitPerMinute 60
      (calls.map (consumed env proxy)) := by
  intro call hcall hkey
  obtain ⟨made, -, rfl⟩ := List.mem_map.mp hcall
  cases made with
  | connect now peer url sent => exact ⟨rfl, rfl⟩
  | message now playerId =>
    have hlists := congrArg String.toList hkey
    simp [consumed, String.toList_append] at hlists

/-- The headers that a peer sends with its attempts. -/
def Sends (peer : Address) (values : Set ClientHeaders) (calls : List GatewayCall) : Prop :=
  ∀ now url sent, .connect now peer url sent ∈ calls → sent ∈ values

/-- Two requests that differ only in these header values await the same call. -/
def SharesBucket (env : Env R) (proxy peer : Address) (values : Set ClientHeaders) : Prop :=
  ∀ url, ∀ a ∈ values, ∀ b ∈ values,
    connectCall env (throughProxy proxy peer url a) = connectCall env (throughProxy proxy peer url b)

/-- With these header values a peer has no more than twice the limit of accepted attempts in
any minute, whatever others do. -/
def Limited (env : Env R) (proxy peer : Address) (values : Set ClientHeaders) : Prop :=
  ∀ calls, Sends peer values calls →
    calls.Pairwise (fun earlier later => earlier.now ≤ later.now) → ∀ start,
      (outcomes env proxy JsMap.empty calls).countP (acceptedFrom peer start) ≤
        2 * env.wsConnectRateLimitPerMinute

theorem limited_of_named {env : Env R} (htrust : env.trustProxy = true) {proxy peer : Address}
    {values : Set ClientHeaders} {ip : String}
    (hnamed : ∀ sent ∈ values, named proxy peer sent = ip) : Limited env proxy peer values := by
  intro calls hsends htime start
  have hcounting : Counting ("ws-connect:" ++ ip) (JsMap.empty : Redis ℚ) := by
    intro entry hentry
    cases hentry
  have haccepted : (outcomes env proxy JsMap.empty calls).countP (acceptedFrom peer start) ≤
      allowedCalls ("ws-connect:" ++ ip) start (start + 60)
        (results JsMap.empty (calls.map (consumed env proxy))) := by
    rw [allowedCalls, ← outcomes_results, List.countP_map]
    refine List.countP_mono_left fun o ho haccepted => ?_
    obtain ⟨call, result⟩ := o
    have hcall : call ∈ calls := by
      rw [← outcomes_fst env proxy JsMap.empty calls]
      exact List.mem_map_of_mem ho
    cases call with
    | message now playerId => cases haccepted
    | connect now client url sent =>
      simp only [acceptedFrom, Bool.and_eq_true, decide_eq_true_eq] at haccepted
      obtain ⟨⟨⟨rfl, hallowed⟩, hstart⟩, hstop⟩ := haccepted
      have hip := (clientIp_throughProxy htrust proxy client url sent).trans
        (hnamed sent (hsends now url sent hcall))
      exact decide_eq_true ⟨congrArg ("ws-connect:" ++ ·) hip, hallowed, hstart, hstop⟩
  refine haccepted.trans ?_
  rw [allowedCalls_eq, results_of_key hcounting (asksFor_connect env proxy ip calls)]
  refine FixedWindow.allowedIn_le _ _ _ _ ?_
  rw [List.pairwise_map]
  refine (List.Pairwise.map _ ?_ htime).sublist List.filter_sublist
  intro earlier later hle
  cases earlier <;> cases later <;> exact hle

/-- For every set of headers that a peer may send: they leave it in one bucket, and below twice
the limit in any minute, if and only if they all name one address. -/
theorem bucket_kept_iff (env : Env R) (htrust : env.trustProxy = true) (proxy peer : Address)
    (values : Set ClientHeaders) :
    SharesBucket env proxy peer values ∧ Limited env proxy peer values ↔
      OneAddress proxy peer values := by
  constructor
  · rintro ⟨hshares, -⟩ a ha b hb
    have hsame := hshares none a ha b hb
    simp only [connectCall, ExternalCall.consume.injEq, and_true,
      clientIp_throughProxy htrust] at hsame
    exact (String.append_right_inj _).mp hsame
  · intro hone
    constructor
    · intro url a ha b hb
      rw [connectCall, connectCall, clientIp_throughProxy htrust, clientIp_throughProxy htrust,
        hone a ha b hb]
    · rcases values.eq_empty_or_nonempty with rfl | ⟨a, ha⟩
      · have hnone : ∀ sent ∈ (∅ : Set ClientHeaders), named proxy peer sent = peer.text :=
          fun sent hsent => hsent.elim
        exact limited_of_named htrust hnone
      · exact limited_of_named htrust fun sent hsent => hone sent hsent a ha

end Gateway

theorem nginx_plain : ∀ c ∈ "10.0.0.1".toList, c ≠ ',' ∧ isJsSpace c = false := by
  simp [isJsSpace]

theorem client_plain : ∀ c ∈ "203.0.113.7".toList, c ≠ ',' ∧ isJsSpace c = false := by
  simp [isJsSpace]

def nginx : Address := ⟨"10.0.0.1", by simp, nginx_plain⟩

def client : Address := ⟨"203.0.113.7", by simp, client_plain⟩

def forwarding (value : Option String) : ClientHeaders := ⟨value, none⟩

/-- One attempt a minute, and the forwarded address is trusted. -/
def strictEnv : Env ℚ :=
  { (defaultEnv : Env ℚ) with
    trustProxy := true
    wsConnectRateLimitPerMinute := 1
    wsConnectRateLimitPerMinute_pos := Nat.one_pos }

/-- Without a header of its own, or with one that begins with its address, the client stays in
its bucket and within the limit. -/
theorem bucket_kept_named :
    SharesBucket strictEnv nginx client
        {forwarding none, forwarding (some " 203.0.113.7 , 1.1.1.1")} ∧
      Limited strictEnv nginx client
        {forwarding none, forwarding (some " 203.0.113.7 , 1.1.1.1")} := by
  refine (bucket_kept_iff strictEnv rfl nginx client _).mpr ?_
  have hown : ∀ sent ∈ ({forwarding none, forwarding (some " 203.0.113.7 , 1.1.1.1")} :
      Set ClientHeaders), named nginx client sent = client.text := by
    rintro sent (rfl | rfl)
    · rfl
    · decide
  exact fun a ha b hb => (hown a ha).trans (hown b hb).symm

/-- Three attempts within a minute, each with a first entry of its own. -/
def forged : List GatewayCall :=
  [.connect 0 client none (forwarding (some "1.1.1.1")),
    .connect 1 client none (forwarding (some "2.2.2.2")),
    .connect 2 client none (forwarding (some "3.3.3.3"))]

/-- The client chooses its bucket, and all three attempts are accepted. -/
theorem forged_accepted :
    ¬SharesBucket strictEnv nginx client Set.univ ∧ ¬Limited strictEnv nginx client Set.univ := by
  constructor
  · intro hshares
    have hsame := hshares none (forwarding (some "1.1.1.1")) trivial
      (forwarding (some "2.2.2.2")) trivial
    revert hsame
    decide
  · intro hlimited
    have hcount := hlimited forged (fun _ _ _ _ => trivial) (by decide) 0
    revert hcount
    decide +kernel

end RealtimeGameServer.Guarantees.ConnectBucket
