import VpnService.Backend.DeviceService

namespace VpnService.Backend

/-- `AuditService.record`. -/
def recordAudit (adminId : Option Id) (action targetType : String) (targetId : Option Id)
    (metadata : List (String×String)) : Req Unit := do
  let now ← getNow
  let id ← nextSerial
  alter fun db => {db with
    auditLogs := db.auditLogs.insert ⟨id,adminId,action,targetType,targetId,metadata,now⟩}
  flush

/-- `notifier.notify`, which never raises. -/
def notify (telegramId : Int) (planName : String) : Req Unit :=
  Eff.change fun s => {s with notices := s.notices++[⟨telegramId,planName⟩]}

/-- `SubscriptionExpiryWorker._process_one`. -/
def processOne (subscription : Subscription) : Req Unit := do
  let db ← getDb
  let plan ← Eff.orRaise (internalError "AttributeError") (db.plans.get? subscription.planId)
  let user ← Eff.orRaise (internalError "AttributeError") (db.users.get? subscription.userId)
  expire subscription
  disableAllForUser subscription.userId
  recordAudit none "subscription.expired" "subscription" (some subscription.id)
    [("user_id",toString subscription.userId),("plan",plan.name)]
  notify user.telegramId plan.name

/-- `SubscriptionExpiryWorker.run_once`; answers with the ids it expired. -/
def runOnce (asOf : Option Time) : Req (List Id) := do
  let now ← getNow
  let db ← getDb
  let expired := db.listExpired (asOf.getD now)
  Eff.each processOne expired
  pure (expired.map Subscription.id)

end VpnService.Backend
