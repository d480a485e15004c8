import VpnService.Backend.Roles

namespace VpnService.Backend

/-- What the `jwt` package promises: of what it signed it returns the claims, and that only before
they expire. -/
structure Jwt.Sound (jwt : Jwt) : Prop where
  sub : ∀ payload key now q,jwt.decode (jwt.encode payload key) key now=some q → q.sub=payload.sub
  fresh : ∀ payload key now q,jwt.decode (jwt.encode payload key) key now=some q → now<payload.exp

section

variable (cfg : Settings) (auth : AuthSettings) (jwt : Jwt)

/-- Whoever does not know the secret presents no token that would be accepted, but for those that
were handed out before. -/
def Unforged (history : List (Site×Occasion)×Site) (o : Occasion) : Prop :=
  ∀ token,o.happening.bearer=some token → ∀ q,jwt.decode token auth.jwtSecret o.env.now=some q →
    ∃ m∈history.1,(serveSite cfg auth jwt m.1 m.2).1=.ok (.token token)

end

/-- Someone showed to be the admin: by the password of the account, while it was active, or by
the secret for the first account. -/
inductive Site.Identified (auth : AuthSettings) (site : Site) (o : Occasion) (id : Id) : Prop
  | password {headers : Headers} {email password : String} (admin : AdminUser)
    (request : o.happening=.request headers (.adminLogin email password))
    (known : admin∈site.admins.rows) (own : admin.id=id) (named : admin.email=email)
    (active : admin.isActive=true) (verified : verifyPassword password admin.hashedPassword=true)
  | secret {headers : Headers} {email password : String}
    (request : o.happening=.request headers (.bootstrap email password auth.adminSecret))
    (first : site.admins.rows=[]) (own : site.world.serial=id)

section

variable {cfg : Settings} {auth : AuthSettings} {jwt : Jwt}

/-- Tokens are handed out only to those who showed who they are. -/
theorem token_identified {site : Site} {o : Occasion} {token : String}
    (h : (serveSite cfg auth jwt site o).1=.ok (.token token)) :
    ∃ (id : Id) (payload : TokenPayload),site.Identified auth o id ∧
      token=jwt.encode payload auth.jwtSecret ∧ payload.sub=some (toString id) ∧
      payload.exp=o.env.now+minutes auth.jwtAccessTokenExpireMinutes := by
  rcases serveSite_cases cfg auth jwt site o with ⟨a,admins,s,hm,hserve⟩|⟨e,w,hserve,_,_⟩
  · rw [hserve] at h
    cases h
    cases hrequest : o.happening with
    | request headers r =>
      rw [hrequest] at hm
      cases r with
      | adminLogin email password =>
        obtain ⟨admin,u,hu,hm⟩ := Eff.bind_ok.mp hm
        obtain ⟨found,hfound,hu⟩ := Eff.orRaise_bind_ok.mp hu
        obtain ⟨hverified,hu⟩ := Eff.require_bind_ok.mp hu
        cases hu
        obtain ⟨_,v,hv,hend⟩ := Eff.bind_ok.mp hm
        cases hend
        cases hv
        exact ⟨admin.id,_,.password admin hrequest (List.mem_of_find?_eq_some hfound) rfl
          (by simpa using List.find?_some hfound) hverified.1 hverified.2,rfl,rfl,rfl⟩
      | bootstrap email password secret =>
        obtain ⟨admin,u,hu,hm⟩ := Eff.bind_ok.mp hm
        obtain ⟨hsecret,hu⟩ := Eff.require_bind_ok.mp hu
        obtain ⟨hnone,hu⟩ := Eff.require_bind_ok.mp hu
        obtain ⟨hid,hnow⟩ := createAdmin_ok hu
        obtain ⟨_,v,hv,hend⟩ := Eff.bind_ok.mp hm
        cases hend
        cases hv
        subst hsecret
        refine ⟨admin.id,issuedPayload auth admin u.now u.serial,
          .secret hrequest (List.length_eq_zero_iff.mp hnone) hid.symm,rfl,rfl,?_⟩
        change u.now+_=_
        rw [hnow]
      | fetchSubscription token =>
        obtain ⟨_,_,_,hend⟩ := Eff.bind_ok.mp hm
        cases hend
      | paymentWebhook rawBody signature =>
        obtain ⟨_,_,_,hend⟩ := Eff.bind_ok.mp hm
        cases hend
      | _ =>
        obtain ⟨_,_,_,hm⟩ := Eff.bind_ok.mp hm
        obtain ⟨_,_,_,hend⟩ := Eff.bind_ok.mp hm
        cases hend
    | setAdmin adminId role isActive =>
      rw [hrequest] at hm
      cases hm
    | _ =>
      rw [hrequest] at hm
      obtain ⟨_,_,_,hend⟩ := Eff.bind_ok.mp hm
      cases hend
  · rw [hserve] at h
    cases h

/-- Numbers are drawn upwards from one, also those of the accounts. -/
def Site.Numbered (site : Site) : Prop :=
  0<site.world.serial ∧ ∀ a∈site.admins.rows,0<a.id

theorem Site.Numbered.after {site : Site} (h : site.Numbered) (o : Occasion) :
    (site.after cfg auth jwt o).Numbered := by
  have hstep : AdminsStep site o.happening (site.after cfg auth jwt o).admins :=
    Site.after_admins site o
  refine ⟨h.1.trans_le (Site.after_serial cfg auth jwt site o),?_⟩
  generalize (site.after cfg auth jwt o).admins=admins at hstep ⊢
  cases hstep with
  | kept => exact h.2
  | created admin own allowed =>
    intro a ha
    rcases Store.mem_of_insert ha with ha|rfl
    · exact h.2 a ha
    · exact own ▸ h.1
  | set adminId role isActive allowed =>
    intro a ha
    rcases (Store.mem_modify (setAccount_id role isActive)).mp ha with ⟨b,hb,_,rfl⟩|⟨ha,_⟩
    · exact h.2 b hb
    · exact h.2 a ha

/-- An answer to the staff goes to the account the token names. -/
theorem staff_named {site : Site} {o : Occasion} {admin : AdminUser} {a : StaffResponse}
    (h : (serveSite cfg auth jwt site o).1=.ok (.staff admin a)) :
    ∃ r t,Staffed cfg auth jwt site o r admin a t := by
  rcases serveSite_cases cfg auth jwt site o with ⟨answer,admins,s,hm,hserve⟩|⟨e,w,hserve,_,_⟩
  · rw [hserve] at h
    cases h
    cases hrequest : o.happening with
    | request headers r =>
      cases r with
      | staff r =>
        obtain ⟨_,_,he,_,hs⟩ := staffed_of_run hrequest hm hserve
        cases he
        exact ⟨r,s,hs⟩
      | fetchSubscription token =>
        rw [hrequest] at hm
        obtain ⟨_,_,_,hend⟩ := Eff.bind_ok.mp hm
        cases hend
      | paymentWebhook rawBody signature =>
        rw [hrequest] at hm
        obtain ⟨_,_,_,hend⟩ := Eff.bind_ok.mp hm
        cases hend
      | _ =>
        rw [hrequest] at hm
        obtain ⟨_,_,_,hm⟩ := Eff.bind_ok.mp hm
        obtain ⟨_,_,_,hend⟩ := Eff.bind_ok.mp hm
        cases hend
    | setAdmin adminId role isActive =>
      rw [hrequest] at hm
      cases hm
    | _ =>
      rw [hrequest] at hm
      obtain ⟨_,_,_,hend⟩ := Eff.bind_ok.mp hm
      cases hend
  · rw [hserve] at h
    cases h

/-- What was printed is read back as the same number, if it is read at all. -/
theorem parseInt_positive {id n : Int} (hid : 0< id) (h : Agent.parseInt (toString id)=some n) :
    n=id := by
  obtain ⟨k,rfl⟩ := Int.eq_ofNat_of_zero_le hid.le
  have hprint : toString (k : Int)=toString k := rfl
  rw [hprint,Agent.parseInt_toString] at h
  split_ifs at h
  exact (Option.some.inj h).symm

/-- Nobody acts for the staff without the token handed out, within its lifetime, to who showed to
be that admin; and the account is checked anew each time, so that who was deactivated since or lost
the role gets no answer. -/
theorem session_provenance (hjwt : jwt.Sound) {before behind : List Occasion} {o : Occasion}
    (hrun : Conducted (Unforged cfg auth jwt) (remembering (Site.after cfg auth jwt)) ([],.initial)
      (before++o::behind)) {admin : AdminUser} {a : StaffResponse}
    (h : (serveSite cfg auth jwt (Site.initial.run cfg auth jwt before) o).1=
      .ok (.staff admin a)) :
    (∃ m∈moments (Site.after cfg auth jwt) .initial before,m.1.Identified auth m.2 admin.id ∧
      (∃ token,(serveSite cfg auth jwt m.1 m.2).1=.ok (.token token) ∧
        o.happening.bearer=some token) ∧
      o.env.now< m.2.env.now+minutes auth.jwtAccessTokenExpireMinutes) ∧
    admin∈(Site.initial.run cfg auth jwt before).admins.rows ∧ admin.isActive=true ∧
      ∃ headers r,o.happening=.request headers (.staff r) ∧ admin.role∈r.roles := by
  obtain ⟨r,t,hs⟩ := staff_named h
  obtain ⟨headers,hrequest⟩ := hs.request
  refine ⟨?_,hs.known,hs.active,headers,r,hrequest,hs.role⟩
  have hhere := ((conducted_append _ _ _).mp hrun).2.1
  rw [remembering_run,List.nil_append] at hhere
  obtain ⟨token,q,sub,hbearer,hdecode,hsub,hparse⟩ := hs.named
  obtain ⟨m,hm,htoken⟩ := hhere token hbearer q hdecode
  obtain ⟨id,payload,hid,rfl,hpayload,hexp⟩ := token_identified htoken
  have hprinted : sub=toString id :=
    Option.some.inj (hsub.symm.trans ((hjwt.sub _ _ _ _ hdecode).trans hpayload))
  have hnumbered : m.1.Numbered :=
    (moments_invariant (Site.after cfg auth jwt) Site.Numbered (p := fun _ => True)
      (fun s o hs _ => hs.after o) ⟨by decide,fun a ha => by cases ha⟩ (fun _ _ => trivial)
      m hm).1
  have hpositive : 0< id := by
    cases hid with
    | password admin request known own named active verified =>
      exact own ▸ hnumbered.2 admin known
    | secret request first own => exact own ▸ hnumbered.1
  rw [hprinted] at hparse
  have hsame : admin.id=id := parseInt_positive hpositive hparse
  refine ⟨m,hm,hsame ▸ hid,⟨_,htoken,hbearer⟩,?_⟩
  have hfresh := hjwt.fresh _ _ _ _ hdecode
  rw [hexp] at hfresh
  exact hfresh

end

theorem sampleJwt_sound : sampleJwt.Sound := by
  have hback : ∀ payload key now q,
      sampleJwt.decode (sampleJwt.encode payload key) key now=some q →
        q=payload ∧ now<payload.exp := by
    intro payload key now q h
    unfold sampleJwt at h
    dsimp only at h
    by_cases hp : payload=samplePayload ∧ key="jwt"
    · obtain ⟨rfl,rfl⟩ := hp
      simp only [and_self,if_true,true_and] at h
      split_ifs at h with hnow
      exact ⟨(Option.some.inj h).symm,hnow⟩
    · rw [if_neg hp,if_neg fun hc => absurd hc.1 (by decide)] at h
      cases h
  exact ⟨fun _ _ _ _ h => by rw [(hback _ _ _ _ h).1],fun _ _ _ _ h => (hback _ _ _ _ h).2⟩

def adminLogin : Occasion :=
  ⟨quiet 0,.request ⟨none,none,none⟩ (.adminLogin "a@b.c" "password")⟩

def granted : Except AppError HttpResponse → Option String
  | .ok (.token token) => some token
  | _ => none

def isStaffAnswer : Except AppError HttpResponse → Bool
  | .ok (.staff _ _) => true
  | _ => false

theorem granted_of {x : Except AppError HttpResponse} {token : String}
    (h : granted x=some token) : x=.ok (.token token) := by
  unfold granted at h
  split at h
  · rw [Option.some.inj h]
  · cases h

theorem admin_of {x : Except AppError HttpResponse} (h : isStaffAnswer x=true) :
    ∃ admin a,x=.ok (.staff admin a) := by
  unfold isStaffAnswer at h
  split at h
  · exact ⟨_,_,rfl⟩
  · cases h

theorem session_provenance_login :
    ∃ admin∈(Site.initial.run sampleSettings sampleAuth sampleJwt
      [firstAdmin .superadmin,adminLogin]).admins.rows,
      ∃ m∈moments (Site.after sampleSettings sampleAuth sampleJwt) .initial
        [firstAdmin .superadmin,adminLogin],m.1.Identified sampleAuth m.2 admin.id := by
  let site := Site.initial.run sampleSettings sampleAuth sampleJwt [firstAdmin .superadmin]
  let o := staffed (.listAuditLogs 0 10)
  have hlogin : (serveSite sampleSettings sampleAuth sampleJwt site adminLogin).1=
      .ok (.token "signed") := granted_of (by decide +kernel)
  obtain ⟨admin,a,hserved⟩ := (admin_of (by decide +kernel) : ∃ admin a,
    (serveSite sampleSettings sampleAuth sampleJwt (Site.initial.run sampleSettings sampleAuth
      sampleJwt [firstAdmin .superadmin,adminLogin]) o).1=.ok (.staff admin a))
  have hbearer : o.happening.bearer=some "signed" := by decide +kernel
  have hrun : Conducted (Unforged sampleSettings sampleAuth sampleJwt)
      (remembering (Site.after sampleSettings sampleAuth sampleJwt)) ([],.initial)
      ([firstAdmin .superadmin,adminLogin]++o::[]) := by
    refine ⟨nofun,nofun,fun token h q _ => ?_,trivial⟩
    cases hbearer.symm.trans h
    exact ⟨(site,adminLogin),List.mem_cons_of_mem _ List.mem_cons_self,hlogin⟩
  obtain ⟨⟨m,hm,hid,_⟩,hknown,_⟩ := session_provenance sampleJwt_sound hrun hserved
  exact ⟨admin,hknown,m,hm,hid⟩

end VpnService.Backend
