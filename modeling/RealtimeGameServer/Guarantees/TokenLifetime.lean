import Mathlib.Algebra.Order.Floor.Ring
import Mathlib.Data.Rat.Floor
import Mathlib.Tactic.FieldSimp
import RealtimeGameServer.Source.JsString
import RealtimeGameServer.Source.TokenService

/-!
# The two lifetimes of a refresh token

`JWT_REFRESH_EXPIRES_IN` may be any string; nothing reads it when the server starts. When a
pair is made, `jsonwebtoken` reads it with the grammar of `ms` and `parseDurationToMs` with
a grammar of its own, which has no decimals, no blanks, no capitals and four units only. Of
the strings that `ms` can read, those of the smaller grammar give a pair whose two
lifetimes agree, as long as the expiry is a time a `Date` can hold, and the others give no
pair.
-/
namespace RealtimeGameServer.Guarantees.TokenLifetime
open Source

/-- The rest of `jsonwebtoken`: the milliseconds that `ms` reads in a string, and the `exp`
of a token, in seconds. -/
structure JwtSpans where
  ms : String → Option ℚ
  exp : String → Option Int

def digitsValue (digits : List Char) : Nat :=
  digits.foldl (fun value digit => value * 10 + (digit.toNat - '0'.toNat)) 0

/-- The text is digits and one of the units `s`, `m`, `h` and `d`. -/
structure ShortForm (text : String) (digits : List Char) (unit : Char) : Prop where
  text : text.toList = digits ++ [unit]
  digits_ne : digits ≠ []
  digits : digits.all Char.isDigit
  unit : unit ∈ ['s', 'm', 'h', 'd']

/-- What the documentation of `jsonwebtoken` says of a signature made at `now`: a string that
`ms` can read is added to `iat`, in whole seconds; and what that of `ms` says of the short
form. -/
structure Documented (service : TokenService) (jwt : JwtSpans) (now : Int) : Prop where
  signs : ∀ payload span, jwt.ms service.jwtRefreshExpiresIn = some span →
    ∃ token, service.signRefreshJwt payload now = .ok token ∧
      jwt.exp token = some ⌊((now / 1000 : Int) : ℚ) + span / 1000⌋
  short : ∀ text digits unit units span, ShortForm text digits unit →
    durationUnit unit = some units → jwt.ms text = some span → span = digitsValue digits * units

/-- The last time a `Date` can hold, in milliseconds. -/
def maxTime : Int := 8640000000000000

/-- `new Date(time)`; `none` is an invalid date. -/
def timeClip (time : Int) : Option Int := if |time| ≤ maxTime then some time else none

/-- A pair is made, and what is stored as its expiry differs from the `exp` of its token by
less than two seconds. -/
def LifetimesAgree (service : TokenService) (jwt : JwtSpans) (userId jti : String) (now : Int) :
    Prop :=
  ∃ pair stored exp, service.createRefreshTokenPair userId jti now = .ok pair ∧
    timeClip pair.expiresAt = some stored ∧ jwt.exp pair.token = some exp ∧
    |stored - exp * 1000| < 2000

theorem mem_units {unit : Char} : unit ∈ ['s', 'm', 'h', 'd'] ↔ (durationUnit unit).isSome := by
  constructor
  · intro h
    simp only [List.mem_cons, List.not_mem_nil, or_false] at h
    rcases h with rfl | rfl | rfl | rfl <;> rfl
  · intro h
    unfold durationUnit at h
    split at h
    case h_5 => cases h
    all_goals simp

/-- Every unit is a number of seconds. -/
theorem durationUnit_seconds {unit : Char} {units : Nat} (h : durationUnit unit = some units) :
    1000 ∣ units := by
  unfold durationUnit at h
  split at h
  case h_5 => cases h
  all_goals
    cases h
    decide

theorem parseDurationToMs_eq_some {text : String} {ms : Nat} :
    parseDurationToMs text = some ms ↔ ∃ digits unit units, ShortForm text digits unit ∧
      durationUnit unit = some units ∧ ms = digitsValue digits * units := by
  unfold parseDurationToMs
  constructor
  · intro h
    split at h
    next => cases h
    next unit reversed htext =>
      split at h
      next hdigits =>
        obtain ⟨units, hunits, rfl⟩ := Option.map_eq_some_iff.mp h
        refine ⟨reversed.reverse, unit, units, ?_, hunits, rfl⟩
        constructor
        case text => rw [← List.reverse_cons, ← htext, List.reverse_reverse]
        case digits_ne => exact mt List.reverse_eq_nil_iff.mp hdigits.1
        case digits => rw [List.all_reverse]; exact hdigits.2
        case unit => rw [mem_units, hunits]; rfl
      next => cases h
  · rintro ⟨digits, unit, units, hform, hunits, rfl⟩
    have hreverse : text.toList.reverse = unit :: digits.reverse := by
      rw [hform.text, List.reverse_append]
      rfl
    rw [hreverse]
    dsimp only
    rw [if_pos ⟨mt List.reverse_eq_nil_iff.mp hform.digits_ne, by
      rw [List.all_reverse]; exact hform.digits⟩, hunits, List.reverse_reverse]
    rfl

theorem parseDurationToMs_isSome {text : String} :
    (parseDurationToMs text).isSome ↔ ∃ digits unit, ShortForm text digits unit := by
  rw [Option.isSome_iff_exists]
  constructor
  · rintro ⟨ms, h⟩
    obtain ⟨digits, unit, -, hform, -⟩ := parseDurationToMs_eq_some.mp h
    exact ⟨digits, unit, hform⟩
  · rintro ⟨digits, unit, hform⟩
    obtain ⟨units, hunits⟩ := Option.isSome_iff_exists.mp (mem_units.mp hform.unit)
    exact ⟨_, parseDurationToMs_eq_some.mpr ⟨digits, unit, units, hform, hunits, rfl⟩⟩

/-- A pair is made if the token is signed and the duration is parsed. -/
theorem createRefreshTokenPair_of_signed {service : TokenService} {userId jti token : String}
    {now : Int} (h : service.signRefreshJwt ⟨userId, userId, "refresh", jti⟩ now = .ok token) :
    service.createRefreshTokenPair userId jti now =
      match parseDurationToMs service.jwtRefreshExpiresIn with
      | none => .error (.error ("Invalid duration: " ++ service.jwtRefreshExpiresIn))
      | some ms => .ok { token, tokenHash := service.hashToken token, expiresAt := now + ms } := by
  unfold TokenService.createRefreshTokenPair
  rw [h]
  cases parseDurationToMs service.jwtRefreshExpiresIn <;> rfl

/-- The `exp` of a span of whole seconds is less than a second short of the sum. -/
theorem exp_of_seconds (now : Int) (seconds : Nat) :
    |now + (1000 * seconds : Nat) -
      ⌊((now / 1000 : Int) : ℚ) + (1000 * seconds : Nat) / 1000⌋ * 1000| < 2000 := by
  have hspan : ((1000 * seconds : Nat) : ℚ) / 1000 = (seconds : Int) := by
    push_cast
    field_simp
  rw [hspan, ← Int.cast_add, Int.floor_intCast, abs_lt]
  push_cast
  omega

/-- For every configured duration that `ms` can read, and every user at every time: a pair is
made with lifetimes that agree if and only if the duration has the short form and its end
is a time a `Date` can hold. -/
theorem lifetimes_agree_iff (service : TokenService) (jwt : JwtSpans) (now : Int)
    (hjwt : Documented service jwt now) (span : ℚ)
    (hspan : jwt.ms service.jwtRefreshExpiresIn = some span) (userId jti : String) :
    LifetimesAgree service jwt userId jti now ↔
      (∃ digits unit, ShortForm service.jwtRefreshExpiresIn digits unit) ∧
        |(now : ℚ) + span| ≤ maxTime := by
  obtain ⟨token, hsigned, hexp⟩ := hjwt.signs ⟨userId, userId, "refresh", jti⟩ span hspan
  rw [LifetimesAgree, createRefreshTokenPair_of_signed hsigned, ← parseDurationToMs_isSome]
  cases hparse : parseDurationToMs service.jwtRefreshExpiresIn with
  | none =>
    refine iff_of_false ?_ fun h => by cases h.1
    rintro ⟨pair, -, -, hpair, -⟩
    cases hpair
  | some ms =>
    obtain ⟨digits, unit, units, hform, hunits, rfl⟩ := parseDurationToMs_eq_some.mp hparse
    obtain ⟨seconds, rfl⟩ := durationUnit_seconds hunits
    have hread := hjwt.short _ digits unit _ span hform hunits hspan
    have htime : |(now : ℚ) + span| ≤ maxTime ↔
        |now + ((digitsValue digits * (1000 * seconds) : Nat) : Int)| ≤ maxTime := by
      rw [hread]
      exact_mod_cast Iff.rfl
    rw [htime]
    constructor
    · rintro ⟨pair, stored, exp, hpair, hstored, -⟩
      cases hpair
      rw [timeClip] at hstored
      split at hstored
      next hmax => exact ⟨rfl, hmax⟩
      next => cases hstored
    · rintro ⟨-, hmax⟩
      refine ⟨_, _, _, rfl, if_pos hmax, hexp, ?_⟩
      have hagree := exp_of_seconds now (digitsValue digits * seconds)
      rw [hread]
      rw [Nat.mul_left_comm] at hagree
      exact_mod_cast hagree

/-- The names of each unit, in lower case, and its milliseconds. -/
def spanUnits : List (List String × ℚ) :=
  [(["", "ms", "msec", "msecs", "millisecond", "milliseconds"], 1),
    (["s", "sec", "secs", "second", "seconds"], 1000),
    (["m", "min", "mins", "minute", "minutes"], 60000),
    (["h", "hr", "hrs", "hour", "hours"], 3600000),
    (["d", "day", "days"], 86400000),
    (["w", "week", "weeks"], 604800000),
    (["y", "yr", "yrs", "year", "years"], 31557600000)]

def spanUnit (name : String) : Option ℚ :=
  (spanUnits.find? fun unit => unit.1.contains name).map Prod.snd

/-- An unsigned number with or without decimals, and the rest of the text. -/
def readDecimal (chars : List Char) : Option (ℚ × List Char) :=
  let whole := chars.takeWhile Char.isDigit
  match chars.dropWhile Char.isDigit with
  | '.' :: rest =>
    let decimals := rest.takeWhile Char.isDigit
    if decimals = [] then none
    else some (digitsValue whole + digitsValue decimals / 10 ^ decimals.length,
      rest.dropWhile Char.isDigit)
  | rest => if whole = [] then none else some (digitsValue whole, rest)

def readSpan (chars : List Char) : Option ℚ := do
  let (number, rest) ← readDecimal chars
  let unit ← spanUnit (toLowerCase (String.ofList (rest.dropWhile (· = ' '))))
  some (number * unit)

/-- A number, blanks, and a unit in any case; milliseconds where there is none. -/
def readMs (text : String) : Option ℚ :=
  if 100 < text.length then none
  else
    match text.toList with
    | '-' :: rest => (readSpan rest).map (-·)
    | chars => readSpan chars

theorem spanUnit_short {unit : Char} {units : Nat} (h : durationUnit unit = some units) :
    spanUnit (toLowerCase (String.ofList ([unit].dropWhile (· = ' ')))) = some (units : ℚ) := by
  unfold durationUnit at h
  split at h
  case h_5 => cases h
  all_goals
    cases h
    decide +kernel

theorem readDecimal_short {digits : List Char} {unit : Char} (hdigits : digits.all Char.isDigit)
    (hne : digits ≠ []) (hunit : unit ∈ ['s', 'm', 'h', 'd']) :
    readDecimal (digits ++ [unit]) = some ((digitsValue digits : ℚ), [unit]) := by
  have hletter : unit.isDigit = false ∧ unit ≠ '.' := by
    simp only [List.mem_cons, List.not_mem_nil, or_false] at hunit
    rcases hunit with rfl | rfl | rfl | rfl <;> decide
  have hall : ∀ c ∈ digits, c.isDigit = true := List.all_eq_true.mp hdigits
  have hnot : ¬unit.isDigit = true := by
    rw [hletter.1]
    exact Bool.false_ne_true
  have hwhole : (digits ++ [unit]).takeWhile Char.isDigit = digits := by
    rw [List.takeWhile_append_of_pos hall, List.takeWhile_cons_of_neg hnot, List.append_nil]
  have hrest : (digits ++ [unit]).dropWhile Char.isDigit = [unit] := by
    rw [List.dropWhile_append_of_pos hall, List.dropWhile_cons_of_neg hnot]
  unfold readDecimal
  rw [hwhole, hrest]
  dsimp only
  split
  next rest heq => exact absurd (List.cons.inj heq).1 hletter.2
  next => rw [if_neg hne]

/-- The short form is read as the number of its units. -/
theorem readMs_short {text : String} {digits : List Char} {unit : Char} {units : Nat} {span : ℚ}
    (hform : ShortForm text digits unit) (hunits : durationUnit unit = some units)
    (hspan : readMs text = some span) : span = digitsValue digits * units := by
  have hread : readSpan (digits ++ [unit]) = some ((digitsValue digits : ℚ) * units) := by
    rw [readSpan, readDecimal_short hform.digits hform.digits_ne hform.unit]
    simp only [Option.bind_eq_bind, Option.bind_some]
    rw [spanUnit_short hunits]
    rfl
  unfold readMs at hspan
  rw [hform.text] at hspan
  split at hspan
  next => cases hspan
  next =>
    split at hspan
    next rest heq =>
      -- a digit is no sign
      cases digits with
      | nil => exact absurd rfl hform.digits_ne
      | cons first others =>
        have hfirst := List.all_eq_true.mp hform.digits first List.mem_cons_self
        rw [(List.cons.inj heq).1] at hfirst
        exact absurd hfirst (by decide)
    next =>
      cases hread.symm.trans hspan
      rfl

/-- A service that signs every token alike. -/
def signing (duration : String) : TokenService where
  jwtRefreshExpiresIn := duration
  signAccessToken _ _ _ _ := .ok "access"
  signRefreshJwt _ _ := .ok "refresh"
  jwtVerify _ _ := none
  sha256Hex token := token
  bcryptHash password _ := password
  bcryptCompare password hash := password = hash

def spans : JwtSpans where
  ms := readMs
  exp token := if token = "refresh" then some 1700604800 else none

theorem documented_week {duration : String} (h : readMs duration = some 604800000) :
    Documented (signing duration) spans 1700000000123 where
  signs payload span hspan := by
    cases h.symm.trans hspan
    exact ⟨"refresh", rfl, by decide +kernel⟩
  short _ _ _ _ _ hform hunits hspan := readMs_short hform hunits hspan

theorem lifetimes_agree_days : LifetimesAgree (signing "7d") spans "u1" "j1" 1700000000123 := by
  refine (lifetimes_agree_iff _ _ _ (documented_week (by decide +kernel)) 604800000
    (by decide +kernel) "u1" "j1").mpr ⟨⟨['7'], 'd', ?_⟩, by norm_num [maxTime, abs_le]⟩
  exact ⟨by decide, by decide, by decide, by decide⟩

/-- `ms` reads a week, and no pair is made. -/
theorem weeks_rejected :
    ¬∀ (service : TokenService) (jwt : JwtSpans) (now : Int), Documented service jwt now →
      ∀ span, jwt.ms service.jwtRefreshExpiresIn = some span → 0 < span → ∀ userId jti,
        LifetimesAgree service jwt userId jti now := by
  intro h
  have hread : readMs "1w" = some 604800000 := by decide +kernel
  obtain ⟨pair, -, -, hpair, -⟩ := h (signing "1w") spans 1700000000123 (documented_week hread)
    604800000 hread (by norm_num) "u1" "j1"
  cases hpair

end RealtimeGameServer.Guarantees.TokenLifetime
