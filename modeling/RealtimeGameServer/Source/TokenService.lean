import RealtimeGameServer.Source.Database

/-!
# Tokens and passwords

Source: infrastructure/auth/token-service.ts. The libraries `jsonwebtoken`,
`bcryptjs` and `node:crypto` are parameters; what they draw (a `jti`, a salt) and
the clock are arguments. Durations are exact integers.
-/
namespace RealtimeGameServer.Source

/-- What `jwt.verify` returns for a refresh token. -/
structure RefreshTokenPayload where
  sub : String
  userId : String
  type : String
  jti : String
  deriving DecidableEq, Repr

/-- `env.JWT_REFRESH_EXPIRES_IN` and the libraries. `jwtVerify` gives `none` where
it throws. -/
structure TokenService where
  jwtRefreshExpiresIn : String
  signAccessToken : (userId playerId username : String) → (now : Int) → Except Failure String
  signRefreshJwt : RefreshTokenPayload → (now : Int) → Except Failure String
  jwtVerify : (token : String) → (now : Int) → Option RefreshTokenPayload
  sha256Hex : String → String
  bcryptHash : (password salt : String) → String
  bcryptCompare : (password hash : String) → Bool

/-- `createRefreshTokenPair`'s result; its `jti` is read by nobody. -/
structure RefreshTokenPair where
  token : String
  tokenHash : String
  expiresAt : Int
  deriving DecidableEq, Repr

/-- The milliseconds of a unit. -/
def durationUnit : Char → Option Nat
  | 's' => some 1000
  | 'm' => some 60000
  | 'h' => some 3600000
  | 'd' => some 86400000
  | _ => none

/-- Digits and one unit, `none` where the source throws. -/
def parseDurationToMs (duration : String) : Option Nat :=
  match duration.toList.reverse with
  | [] => none
  | unit :: digits =>
    if digits ≠ [] ∧ digits.all Char.isDigit then
      (durationUnit unit).map fun ms =>
        digits.reverse.foldl (fun value digit => value * 10 + (digit.toNat - '0'.toNat)) 0 * ms
    else none

namespace TokenService

def hashToken (service : TokenService) (token : String) : String := service.sha256Hex token

def verifyRefreshToken (service : TokenService) (token : String) (now : Int) :
    Option RefreshTokenPayload :=
  (service.jwtVerify token now).filter fun payload => payload.type = "refresh"

def createRefreshTokenPair (service : TokenService) (userId jti : String) (now : Int) :
    Except Failure RefreshTokenPair := do
  let token ← service.signRefreshJwt { sub := userId, userId, type := "refresh", jti } now
  match parseDurationToMs service.jwtRefreshExpiresIn with
  | none => throw (.error ("Invalid duration: " ++ service.jwtRefreshExpiresIn))
  | some ms => return { token, tokenHash := service.hashToken token, expiresAt := now + ms }

/-- A missing or empty hash fails whatever the password. -/
def verifyPasswordWithTimingPad (service : TokenService) (password : String) :
    Option String → Bool
  | none => false
  | some hash => hash ≠ "" && service.bcryptCompare password hash

end TokenService

/-- A pair's hash is that of its token. -/
theorem tokenHash_createRefreshTokenPair {service : TokenService} {userId jti : String} {now : Int}
    {pair : RefreshTokenPair} (h : service.createRefreshTokenPair userId jti now = .ok pair) :
    pair.tokenHash = service.hashToken pair.token := by
  unfold TokenService.createRefreshTokenPair at h
  cases hsign : service.signRefreshJwt ⟨userId, userId, "refresh", jti⟩ now with
  | error reason =>
    rw [hsign] at h
    cases h
  | ok token =>
    rw [hsign] at h
    simp only [bind, Except.bind] at h
    split at h <;> cases h
    rfl

end RealtimeGameServer.Source
