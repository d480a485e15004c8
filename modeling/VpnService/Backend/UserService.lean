import VpnService.Backend.PaymentService

namespace VpnService.Backend

structure TelegramAuthRequest where
  telegramId : Int
  username : Option String
  firstName : Option String
  lastName : Option String
  languageCode : Option String

def updateUser (userId : Id) (f : User → User) (hf : ∀ u,(f u).id=u.id) : Req Unit :=
  alter fun db => {db with users := db.users.modify userId f hf}

def getOrCreateFromTelegram (payload : TelegramAuthRequest) : Req Unit := do
  let db ← getDb
  match db.userByTelegramId payload.telegramId with
  | some user => updateUser user.id (fun u =>
      {u with
        username := payload.username
        firstName := payload.firstName
        lastName := payload.lastName
        languageCode := payload.languageCode}) fun _ => rfl
  | none => do
    let id ← nextSerial
    let user : User := {
      id := id
      telegramId := payload.telegramId
      username := payload.username
      firstName := payload.firstName
      lastName := payload.lastName
      languageCode := payload.languageCode
      status := .active }
    alter fun db => {db with users := db.users.insert user}
    flush

/-- `require_active_user`, behind every bot-facing endpoint. -/
def currentUser (telegramId : Int) : Req User := do
  let db ← getDb
  let user ← Eff.orRaise ⟨.notFound,"user_not_found","User not found"⟩
    (db.userByTelegramId telegramId)
  Eff.require (user.status=.active) ⟨.permissionDenied,"user_blocked","User is blocked"⟩
  pure user

structure PlanCreate where
  name : String
  slug : String
  price : Rat
  currency : String
  durationDays : Int
  maxDevices : Int
  maxSpeedMbps : Option Int
  active : Bool

/-- The field constraints of the schema. -/
def PlanCreate.valid (p : PlanCreate) : Bool :=
  p.price≥0 ∧ p.durationDays>0 ∧ p.maxDevices>0

/-- An unset field is `none`; the schema puts no constraint on any. -/
structure PlanUpdate where
  name : Option String
  price : Option Rat
  durationDays : Option Int
  maxDevices : Option Int
  maxSpeedMbps : Option (Option Int)
  active : Option Bool

def createPlan (payload : PlanCreate) : Req Plan := do
  Eff.require payload.valid ⟨.validation,"validation_error","Invalid request"⟩
  let db ← getDb
  Eff.require (db.planBySlug payload.slug).isNone
    ⟨.conflict,"plan_slug_taken","Plan slug already exists"⟩
  let id ← nextSerial
  let plan : Plan := {
    id := id
    name := payload.name
    slug := payload.slug
    price := numeric2 payload.price
    currency := payload.currency
    durationDays := payload.durationDays
    maxDevices := payload.maxDevices
    maxSpeedMbps := payload.maxSpeedMbps
    active := payload.active }
  alter fun db => {db with plans := db.plans.insert plan}
  flush
  pure plan

def updatedPlan (payload : PlanUpdate) (p : Plan) : Plan :=
  {p with
    name := payload.name.getD p.name
    price := (payload.price.map numeric2).getD p.price
    durationDays := payload.durationDays.getD p.durationDays
    maxDevices := payload.maxDevices.getD p.maxDevices
    maxSpeedMbps := payload.maxSpeedMbps.getD p.maxSpeedMbps
    active := payload.active.getD p.active}

def updatePlan (planId : Id) (payload : PlanUpdate) : Req Unit := do
  let plan ← getPlan planId
  alter fun db => {db with plans := db.plans.modify plan.id (updatedPlan payload) fun _ => rfl}
  flush

end VpnService.Backend
