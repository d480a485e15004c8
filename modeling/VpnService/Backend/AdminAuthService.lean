import VpnService.Backend.BootstrapRace
import VpnService.Backend.UserService
import VpnService.Agent.Auth

namespace VpnService.Backend

/-- `timedelta(minutes=...)`. -/
def minutes (n : Int) : Time := n*60000000

/-- The claims of a token; one that is missing is `none`. -/
structure TokenPayload where
  sub : Option String
  type : Option String
  iat : Time
  exp : Time
  jti : Int
  role : Option String
  kind : Option String
  deriving DecidableEq

/-- The `jwt` package with the configured algorithm. A token that `decode` refuses is `none`. -/
structure Jwt where
  encode : TokenPayload → String → String
  decode : String → String → Time → Option TokenPayload

structure AuthSettings where
  jwtSecret : String
  jwtAccessTokenExpireMinutes : Int
  adminSecret : String
  internalServiceToken : String

def AdminRole.value : AdminRole → String
  | .superadmin => "superadmin"
  | .support => "support"
  | .viewer => "viewer"

/-- `password.encode("utf-8")[:72]`, all that bcrypt is given of a password. -/
def truncated (password : String) : List UInt8 := password.toUTF8.toList.take 72

/-- `verify_password`; bcrypt is taken to be injective on what it is given. -/
def verifyPassword (plainPassword : String) (hashedPassword : PasswordHash) : Bool :=
  truncated plainPassword=truncated hashedPassword.password

def adminByEmail (admins : Admins) (email : String) : Option AdminUser :=
  admins.rows.find? fun a => a.email=email

def invalidCredentials : AppError := ⟨.unauthorized,"invalid_credentials","Invalid credentials"⟩

def authenticate (admins : Admins) (email password : String) : Req AdminUser := do
  let admin ← Eff.orRaise invalidCredentials (adminByEmail admins email)
  Eff.require (admin.isActive=true ∧ verifyPassword password admin.hashedPassword=true)
    invalidCredentials
  pure admin

/-- The claims `issue_tokens` gives to `create_token`, with those that function makes. -/
def issuedPayload (auth : AuthSettings) (admin : AdminUser) (now : Time) (jti : Int) :
    TokenPayload where
  sub := some (toString admin.id)
  type := some "access"
  iat := now
  exp := now+minutes auth.jwtAccessTokenExpireMinutes
  jti := jti
  role := some admin.role.value
  kind := some "admin"

def issueTokens (jwt : Jwt) (auth : AuthSettings) (admin : AdminUser) : Req String := do
  let now ← getNow
  let jti ← nextSerial
  pure (jwt.encode (issuedPayload auth admin now jti) auth.jwtSecret)

/-- The row to be inserted; `admin_users.email` is unique and holds 255 characters. -/
def createAdmin (admins : Admins) (email password : String) (role : AdminRole) :
    Req AdminUser := do
  let id ← nextSerial
  flush
  Eff.require (email.length≤255) (internalError "StringDataRightTruncationError")
  Eff.require (adminByEmail admins email).isNone (internalError "IntegrityError")
  pure ⟨id,email,⟨password,id⟩,role,true⟩

/-- The request as one transaction; `bootstrapFirstAdmin` takes its steps apart. -/
def AdminAuthService.bootstrapFirstAdmin (auth : AuthSettings) (admins : Admins)
    (email password providedSecret : String) : Req AdminUser := do
  Eff.require (providedSecret=auth.adminSecret)
    ⟨.unauthorized,"invalid_bootstrap_secret","Invalid bootstrap secret"⟩
  Eff.require (admins.rows.length=0)
    ⟨.conflict,"bootstrap_already_completed",
      "An admin account already exists; bootstrap is a one-time operation"⟩
  createAdmin admins email password .superadmin

structure Headers where
  authorization : Option String
  xInternalToken : Option String
  xTelegramUserId : Option Int

/-- `require_internal_service`. -/
def requireInternalService (auth : AuthSettings) (headers : Headers) : Req Unit :=
  Eff.require (headers.xInternalToken≠some "" ∧
      headers.xInternalToken=some auth.internalServiceToken)
    ⟨.unauthorized,"invalid_internal_token","Invalid internal service token"⟩

/-- What follows `Bearer `, whatever the case of its letters. -/
def bearerToken (authorization : String) : Option String :=
  if "bearer ".toList.isPrefixOf (authorization.toList.map Char.toLower) then
    some (String.ofList ((authorization.toList.dropWhile fun c => c≠ ' ').drop 1))
  else none

def invalidToken : AppError := ⟨.unauthorized,"invalid_token","Invalid or expired token"⟩

def adminInactive : AppError :=
  ⟨.unauthorized,"admin_inactive","Admin account not found or inactive"⟩

/-- `get_current_admin`. -/
def getCurrentAdmin (jwt : Jwt) (auth : AuthSettings) (admins : Admins) (headers : Headers) :
    Req AdminUser := do
  let token ← Eff.orRaise ⟨.unauthorized,"missing_token","Missing bearer token"⟩
    (headers.authorization.bind bearerToken)
  let now ← getNow
  let payload ← Eff.orRaise invalidToken (jwt.decode token auth.jwtSecret now)
  Eff.require (payload.type=some "access" ∧ payload.kind=some "admin") invalidToken
  let sub ← Eff.orRaise (internalError "KeyError") payload.sub
  let id ← Eff.orRaise (internalError "ValueError") (Agent.parseInt sub)
  let admin ← Eff.orRaise adminInactive (admins.get? id)
  Eff.require (admin.isActive=true) adminInactive
  pure admin

/-- `require_admin_role`. -/
def requireAdminRole (jwt : Jwt) (auth : AuthSettings) (admins : Admins) (headers : Headers)
    (roles : List AdminRole) : Req AdminUser := do
  let admin ← getCurrentAdmin jwt auth admins headers
  Eff.require (roles=[] ∨ admin.role∈roles)
    ⟨.permissionDenied,"insufficient_role","Insufficient admin role"⟩
  pure admin

/-- `get_current_user`. -/
def getCurrentUser (auth : AuthSettings) (headers : Headers) : Req User := do
  requireInternalService auth headers
  let telegramId ← Eff.orRaise
    ⟨.unauthorized,"missing_user_header","Missing X-Telegram-User-Id header"⟩
    headers.xTelegramUserId
  currentUser telegramId

end VpnService.Backend
