import VpnService.Backend.Repositories

namespace VpnService.Backend

def rotatedLink (token : Secret) (now : Time) (l : SubscriptionLink) : SubscriptionLink :=
  {l with
    tokenHash := ⟨token⟩
    status := .active
    rotatedAt := some now
    revokedAt := none}

/-- `create_or_rotate`; the plaintext token is only ever in the answer. -/
def createOrRotate (deviceId : Id) : Req (SubscriptionLink×Secret) := do
  let serial ← nextSerial
  let token := Secret.generated serial
  let now ← getNow
  let db ← getDb
  match db.linkOf deviceId with
  | none => do
    let id ← nextSerial
    let link : SubscriptionLink := ⟨id,deviceId,⟨token⟩,.active,none,none,none,0⟩
    alter fun db => {db with subscriptionLinks := db.subscriptionLinks.insert link}
    flush
    pure (link,token)
  | some link => do
    alter fun db => {db with
      subscriptionLinks := db.subscriptionLinks.modify link.id (rotatedLink token now) fun _ => rfl}
    flush
    pure (rotatedLink token now link,token)

def subscriptionLinkNotFound : AppError :=
  ⟨.notFound,"subscription_link_not_found","No subscription link exists for this device yet"⟩

def revokeLink (link : SubscriptionLink) : Req Unit := do
  let now ← getNow
  alter fun db => {db with
    subscriptionLinks := db.subscriptionLinks.modify link.id
      (fun l => {l with status := .revoked,revokedAt := some now}) fun _ => rfl}

/-- `resolve_token`; no row has the hash of an empty token looked up. -/
def resolveToken (token : Secret) : Req (Option SubscriptionLink) := do
  if token=.text "" then pure none
  else do
    let db ← getDb
    pure (db.linkByTokenHash ⟨token⟩)

def recordAccess (link : SubscriptionLink) : Req Unit := do
  let now ← getNow
  alter fun db => {db with
    subscriptionLinks := db.subscriptionLinks.modify link.id
      (fun l => {l with lastAccessedAt := some now,accessCount := l.accessCount+1}) fun _ => rfl}

end VpnService.Backend
