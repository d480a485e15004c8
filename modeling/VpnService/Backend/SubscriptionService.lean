import VpnService.Backend.Repositories

namespace VpnService.Backend

def getPlan (planId : Id) : Req Plan := do
  let db ← getDb
  Eff.orRaise ⟨.notFound,"plan_not_found","Plan not found"⟩ (db.plans.get? planId)

def getSubscription (subscriptionId : Id) : Req Subscription := do
  let db ← getDb
  Eff.orRaise ⟨.notFound,"subscription_not_found","Subscription not found"⟩
    (db.subscriptions.get? subscriptionId)

def updateSubscription (subscriptionId : Id) (f : Subscription → Subscription)
    (hf : ∀ s,(f s).id=s.id) : Req Unit :=
  alter fun db => {db with subscriptions := db.subscriptions.modify subscriptionId f hf}

def pendingSubscription (id : Id) (user : User) (plan : Plan) (autoRenew : Bool) :
    Subscription where
  id := id
  userId := user.id
  planId := plan.id
  status := .pending
  startedAt := none
  expiresAt := none
  autoRenew := autoRenew
  deviceLimitOverride := none

def createPending (user : User) (plan : Plan) (autoRenew : Bool) : Req Subscription := do
  Eff.require plan.active ⟨.validation,"plan_inactive","Plan is not active"⟩
  let id ← nextSerial
  let subscription := pendingSubscription id user plan autoRenew
  alter fun db => {db with subscriptions := db.subscriptions.insert subscription}
  flush
  pure subscription

/-- Where `activate` extends from: the current expiry if the row is active and not over. -/
def extensionBase (now : Time) (s : Subscription) : Time := match s.status,s.expiresAt with
  | .active,some t => if t>now then t else now
  | _,_ => now

def activated (now : Time) (plan : Plan) (s : Subscription) : Subscription :=
  {s with
    status := .active
    startedAt := some (s.startedAt.getD now)
    expiresAt := some (extensionBase now s+days plan.durationDays)}

def activate (subscription : Subscription) (plan : Plan) : Req Unit := do
  let now ← getNow
  Eff.require (InCalendar (extensionBase now subscription) plan.durationDays)
    (internalError "OverflowError")
  updateSubscription subscription.id (activated now plan) fun _ => rfl

def cancelled (s : Subscription) : Subscription := {s with status := .cancelled,autoRenew := false}

def cancel (subscription : Subscription) : Req Unit :=
  updateSubscription subscription.id cancelled fun _ => rfl

def expire (subscription : Subscription) : Req Unit :=
  updateSubscription subscription.id (fun s => {s with status := .expired}) fun _ => rfl

end VpnService.Backend
