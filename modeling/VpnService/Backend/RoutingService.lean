import VpnService.Backend.Repositories
import VpnService.Framework.Text

namespace VpnService.Backend

/-- `RoutingEngine.full_vpn_allowed_ips`. -/
def fullVpnAllowedIps : List String := ["0.0.0.0/0","::/0"]

def uniqueViolation : AppError := internalError "IntegrityError"

def createCategory (name : String) (description : Option String) : Req RoutingCategory := do
  let id ← nextSerial
  let category : RoutingCategory := ⟨id,name,description,true⟩
  flush
  let db ← getDb
  Eff.require (∀ c∈db.routingCategories.rows,c.name≠name) uniqueViolation
  alter fun db => {db with routingCategories := db.routingCategories.insert category}
  pure category

/-- `domain.lower().strip()`. -/
def normalizeDomain (cfg : Settings) (domain : String) : String :=
  String.ofList (strip (cfg.lower domain).toList)

def addRule (cfg : Settings) (categoryId : Id) (domain : String) (routeType : RouteType)
    (enabled : Bool) : Req RoutingRule := do
  let now ← getNow
  let id ← nextSerial
  let rule : RoutingRule := ⟨id,categoryId,normalizeDomain cfg domain,routeType,enabled,now⟩
  flush
  let db ← getDb
  Eff.require ((db.routingCategories.get? categoryId).isSome ∧
    ∀ r∈db.routingRules.rows,¬(r.categoryId=categoryId ∧ r.domain=rule.domain)) uniqueViolation
  alter fun db => {db with routingRules := db.routingRules.insert rule}
  pure rule

def getOrCreateUserProfile (userId : Id) : Req UserRoutingProfile := do
  let db ← getDb
  match db.routingProfileOf userId with
  | some profile => pure profile
  | none => do
    let id ← nextSerial
    let profile : UserRoutingProfile := ⟨id,userId,.fullVpn⟩
    alter fun db => {db with userRoutingProfiles := db.userRoutingProfiles.insert profile}
    flush
    pure profile

def setMode (userId : Id) (mode : RoutingMode) : Req Unit := do
  let profile ← getOrCreateUserProfile userId
  alter fun db => {db with
    userRoutingProfiles :=
      db.userRoutingProfiles.modify profile.id (fun p => {p with mode := mode}) fun _ => rfl}

/-- Updates the user's preference for the category, or inserts one. -/
def writePreference (userId categoryId : Id) (enabled : Bool) : Req Unit := do
  let db ← getDb
  match db.userCategoryPreferences.rows.find? fun p =>
    p.userId=userId ∧ p.categoryId=categoryId with
  | none => do
    let id ← nextSerial
    alter fun db => {db with
      userCategoryPreferences :=
        db.userCategoryPreferences.insert ⟨id,userId,categoryId,enabled⟩}
  | some pref =>
    alter fun db => {db with
      userCategoryPreferences :=
        db.userCategoryPreferences.modify pref.id (fun p => {p with enabled := enabled})
          fun _ => rfl}

def setCategoryPreference (userId categoryId : Id) (enabled : Bool) : Req Unit := do
  let db ← getDb
  Eff.require (db.routingCategories.get? categoryId).isSome
    ⟨.notFound,"category_not_found","Routing category not found"⟩
  writePreference userId categoryId enabled
  flush

def addCustomDomain (cfg : Settings) (userId : Id) (domain : String) (routeType : RouteType) :
    Req Unit := do
  let db ← getDb
  match (db.customDomains userId).find? fun d => d.domain=normalizeDomain cfg domain with
  | some d =>
    alter fun db => {db with
      userCustomDomains :=
        db.userCustomDomains.modify d.id
          (fun d => {d with routeType := routeType,enabled := true}) fun _ => rfl}
  | none => do
    let now ← getNow
    let id ← nextSerial
    alter fun db => {db with
      userCustomDomains :=
        db.userCustomDomains.insert ⟨id,userId,normalizeDomain cfg domain,routeType,true,now⟩}
    flush

/-- `prefs.get(category_id, False)`; of two rows of one category the later one counts. -/
def categoryEnabled (prefs : List UserCategoryPreference) (categoryId : Id) : Bool :=
  ((prefs.reverse.find? fun p => p.categoryId=categoryId).map
    UserCategoryPreference.enabled).getD false

/-- `RoutingService._resolve_user_domain_rules`. -/
def userDomainRules (db : Database) (userId : Id) : List (String×RouteType) :=
  let prefs := db.categoryPreferences userId
  ((db.routingRules.rows.filter fun r => r.enabled).map fun r =>
    (r.domain,if categoryEnabled prefs r.categoryId then r.routeType else .direct))
  ++((db.customDomains userId).filter fun d => d.enabled).map fun d => (d.domain,d.routeType)

/-- The AllowedIPs a new profile gets. -/
def profileAllowedIps (userId : Id) (mode : RoutingMode) : Req (List String) :=
  match mode with
  | .fullVpn => pure fullVpnAllowedIps
  | .smartVpn => do
    let db ← getDb
    let answer ← Eff.reads fun s => s.allowedIps (userDomainRules db userId)
    let allowed ← Eff.orRaise (internalError "Exception") answer
    pure (if allowed=[] then fullVpnAllowedIps else allowed)

def supersede (p : VpnProfile) : VpnProfile := {p with isCurrent := false}

def markSuperseded (deviceId : Id) (db : Database) : Database :=
  {db with
    vpnProfiles := db.vpnProfiles.mapRows
      (fun p => if p.deviceId=deviceId ∧ p.isCurrent then supersede p else p) (by
        intro p
        split_ifs <;> rfl)}

/-- `scalar_one_or_none` of the current profiles. -/
def currentProfile (ps : List VpnProfile) : Req (Option VpnProfile) := match ps with
  | [] => pure none
  | [p] => pure (some p)
  | _::_::_ => Eff.raise (internalError "MultipleResultsFound")

/-- `RoutingService.regenerate_profile`. -/
def regenerateProfile (cfg : Settings) (deviceId userId : Id) : Req VpnProfile := do
  let profile ← getOrCreateUserProfile userId
  let allowed ← profileAllowedIps userId profile.mode
  let db ← getDb
  let current ← currentProfile (db.currentProfiles deviceId)
  alter (markSuperseded deviceId)
  let now ← getNow
  let id ← nextSerial
  let new : VpnProfile := {
    id := id
    deviceId := deviceId
    mode := profile.mode
    allowedIps := allowed
    dns := cfg.vpnDnsList
    version := (current.map fun p => p.version+1).getD 1
    isCurrent := true
    generatedAt := now }
  alter fun db => {db with vpnProfiles := db.vpnProfiles.insert new}
  flush
  pure new

end VpnService.Backend
