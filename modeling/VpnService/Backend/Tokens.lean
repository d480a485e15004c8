import Mathlib.Data.List.Induction
import VpnService.Backend.Contracts
import VpnService.Backend.Soundness

namespace VpnService.Backend

/-- The tokens each device was ever given, the last one first, and whether its last one has not
been withdrawn. -/
structure Tokens where
  issued : Id → List Secret
  live : Id → Bool

namespace Tokens

def empty : Tokens := ⟨fun _ => [],fun _ => false⟩

def issue (k : Tokens) (d : Id) (t : Secret) : Tokens where
  issued e := if e=d then t::k.issued e else k.issued e
  live e := if e=d then true else k.live e

def withdraw (k : Tokens) (d : Id) : Tokens :=
  {k with live := fun e => if e=d then false else k.live e}

def Works (k : Tokens) (d : Id) (t : Secret) : Prop :=
  (k.issued d).head?=some t ∧ k.live d=true

end Tokens

/-- The device and the token of a subscription URL, as the user gets it. -/
def Response.token : Response → Option (Id×Secret)
  | .linkCreated l (.url _ t) => some (l.deviceId,t)
  | .provisioned p => p.subscriptionUrl.bind fun
    | .url _ t => some (p.device.id,t)
    | .config .. => none
  | _ => none

/-- What an answer tells of the tokens. -/
def Tokens.record (k : Tokens) (r : Request) : Except AppError Response → Tokens
  | .error _ => k
  | .ok a => match a.token,r with
    | some (d,t),_ => k.issue d t
    | none,.device _ d .revokeLink => k.withdraw d
    | none,_ => k

/-- The state with the tokens told of so far. -/
def recording (cfg : Settings) (x : World×Tokens) (c : Call) : World×Tokens :=
  (after cfg x.1 c,x.2.record c.request (serve cfg c.env c.request x.1).1)

/-- The columns of a link that decide what its token does. -/
def SubscriptionLink.terms (l : SubscriptionLink) :
    Id×Id×TokenHash×SubscriptionLinkStatus := (l.id,l.deviceId,l.tokenHash,l.status)

/-- The links hold the last token of each device and no other. -/
structure Custody (n : Int) (k : Tokens) (db : Database) : Prop where
  rows : ∀ l∈db.subscriptionLinks.rows,l.id<n ∧ l.deviceId<n ∧
    (k.issued l.deviceId).head?=some l.tokenHash.preimage ∧
    (l.status=.active ↔ k.live l.deviceId=true)
  lone : ∀ l∈db.subscriptionLinks.rows,∀ m∈db.subscriptionLinks.rows,
    l.deviceId=m.deviceId → l=m
  kept : ∀ d,k.issued d≠[] → ∃ l∈db.subscriptionLinks.rows,l.deviceId=d
  drawn : ∀ d t,t∈k.issued d → ∃ i,t=.generated i ∧ i<n
  apart : ∀ d e t,t∈k.issued d → t∈k.issued e → d=e
  once : ∀ d,(k.issued d).Nodup

theorem custody_empty (n : Int) : Custody n .empty .empty where
  rows := fun _ h => by cases h
  lone := fun _ h => by cases h
  kept := fun _ h => absurd rfl h
  drawn := fun _ _ h => by cases h
  apart := fun _ _ _ h => by cases h
  once := fun _ => List.nodup_nil

namespace Custody

variable {n m : Int} {k : Tokens} {a b : Database}

theorem later (h : Custody n k a) (hn : n≤ m) : Custody m k a where
  rows l hl := by
    obtain ⟨hid,hd,hhead,hlive⟩ := h.rows l hl
    exact ⟨hid.trans_le hn,hd.trans_le hn,hhead,hlive⟩
  lone := h.lone
  kept := h.kept
  drawn d t ht := by
    obtain ⟨i,hi,hlt⟩ := h.drawn d t ht
    exact ⟨i,hi,hlt.trans_le hn⟩
  apart := h.apart
  once := h.once

/-- Accesses may be counted. -/
theorem of_terms (h : Custody n k a) (hab : b.subscriptionLinks.rows.map SubscriptionLink.terms=
    a.subscriptionLinks.rows.map SubscriptionLink.terms) : Custody n k b := by
  have hback : ∀ l∈b.subscriptionLinks.rows,∃ x∈a.subscriptionLinks.rows,x.terms=l.terms := by
    intro l hl
    have hmem : l.terms∈b.subscriptionLinks.rows.map SubscriptionLink.terms :=
      List.mem_map_of_mem hl
    rw [hab] at hmem
    exact List.mem_map.mp hmem
  have hforth : ∀ x∈a.subscriptionLinks.rows,∃ l∈b.subscriptionLinks.rows,l.terms=x.terms := by
    intro x hx
    have hmem : x.terms∈a.subscriptionLinks.rows.map SubscriptionLink.terms :=
      List.mem_map_of_mem hx
    rw [← hab] at hmem
    exact List.mem_map.mp hmem
  refine {h with rows := fun l hl => ?_,lone := fun l hl y hy hd => ?_,kept := fun d hd => ?_}
  · obtain ⟨x,hx,hterms⟩ := hback l hl
    simp only [SubscriptionLink.terms,Prod.mk.injEq] at hterms
    obtain ⟨hid,hdev,hhash,hstatus⟩ := hterms
    rw [← hid,← hdev,← hhash,← hstatus]
    exact h.rows x hx
  · obtain ⟨x,hx,hxl⟩ := hback l hl
    obtain ⟨z,hz,hzy⟩ := hback y hy
    simp only [SubscriptionLink.terms,Prod.mk.injEq] at hxl hzy
    have hxz : x=z := h.lone x hx z hz (hxl.2.1.trans (hd.trans hzy.2.1.symm))
    apply Store.eq_of_key hl hy
    rw [← hxl.1,← hzy.1,hxz]
  · obtain ⟨x,hx,hdev⟩ := h.kept d hd
    obtain ⟨l,hl,hterms⟩ := hforth x hx
    simp only [SubscriptionLink.terms,Prod.mk.injEq] at hterms
    exact ⟨l,hl,hterms.2.1.trans hdev⟩

theorem fresh_token (h : Custody n k a) (d : Id) : Secret.generated n∉k.issued d := by
  intro hmem
  obtain ⟨i,hi,hlt⟩ := h.drawn d _ hmem
  cases hi
  exact hlt.ne rfl

/-- What is issued is new to the history. -/
theorem issue_history (h : Custody n k a) (hn : n< m) (d : Id) :
    (∀ e t,t∈(k.issue d (.generated n)).issued e → ∃ i,t=.generated i ∧ i< m) ∧
    (∀ e f t,t∈(k.issue d (.generated n)).issued e → t∈(k.issue d (.generated n)).issued f →
      e=f) ∧ ∀ e,((k.issue d (.generated n)).issued e).Nodup := by
  have hmem : ∀ e t,t∈(k.issue d (.generated n)).issued e →
      (e=d ∧ t=.generated n) ∨ t∈k.issued e := by
    intro e t ht
    by_cases he : e=d
    · simp only [Tokens.issue,he,if_true,List.mem_cons] at ht
      rcases ht with ht|ht
      · exact Or.inl ⟨he,ht⟩
      · exact Or.inr (he ▸ ht)
    · simp only [Tokens.issue,he,if_false] at ht
      exact Or.inr ht
  refine ⟨fun e t ht => ?_,fun e f t he hf => ?_,fun e => ?_⟩
  · rcases hmem e t ht with ⟨_,ht⟩|ht
    · exact ⟨n,ht,hn⟩
    · obtain ⟨i,hi,hlt⟩ := h.drawn e t ht
      exact ⟨i,hi,hlt.trans hn⟩
  · rcases hmem e t he with ⟨hed,ht⟩|ht
    · rcases hmem f t hf with ⟨hfd,_⟩|hf
      · rw [hed,hfd]
      · rw [ht] at hf
        exact absurd hf (h.fresh_token f)
    · rcases hmem f t hf with ⟨_,hnew⟩|hf
      · rw [hnew] at ht
        exact absurd ht (h.fresh_token e)
      · exact h.apart e f t ht hf
  · by_cases he : e=d
    · simp only [Tokens.issue,he,if_true]
      exact List.nodup_cons.mpr ⟨h.fresh_token d,h.once d⟩
    · simp only [Tokens.issue,he,if_false]
      exact h.once e

theorem insert (h : Custody n k a) {d i : Id} (hnone : a.linkOf d=none) (hd : d< m)
    (hi : n≤ i) (him : i< m) : Custody m (k.issue d (.generated n)) {a with
      subscriptionLinks := a.subscriptionLinks.insert
        ⟨i,d,⟨.generated n⟩,.active,none,none,none,0⟩} := by
  obtain ⟨hdrawn,hapart,honce⟩ := h.issue_history (hi.trans_lt him) d
  have hother : ∀ l∈a.subscriptionLinks.rows,l.deviceId≠d := by
    have hfind := List.find?_eq_none.mp hnone
    exact fun l hl => by simpa using hfind l hl
  have hfresh : ∀ l∈a.subscriptionLinks.rows,l.id≠i := fun l hl =>
    ((h.rows l hl).1.trans_le hi).ne
  refine ⟨fun l hl => ?_,fun l hl x hx hlx => ?_,fun e he => ?_,hdrawn,hapart,honce⟩
  · rcases (Store.mem_insert hfresh).mp hl with hl|rfl
    · obtain ⟨hid,hdev,hhead,hlive⟩ := h.rows l hl
      have hnm := (hi.trans_lt him).le
      simp only [Tokens.issue,hother l hl,if_false]
      exact ⟨hid.trans_le hnm,hdev.trans_le hnm,hhead,hlive⟩
    · simp [Tokens.issue,him,hd]
  · rcases (Store.mem_insert hfresh).mp hl with hl|rfl
    · rcases (Store.mem_insert hfresh).mp hx with hx|rfl
      · exact h.lone l hl x hx hlx
      · exact absurd hlx (hother l hl)
    · rcases (Store.mem_insert hfresh).mp hx with hx|rfl
      · exact absurd hlx.symm (hother x hx)
      · rfl
  · by_cases hed : e=d
    · exact ⟨_,(Store.mem_insert hfresh).mpr (Or.inr rfl),hed.symm⟩
    · simp only [Tokens.issue,hed,if_false] at he
      obtain ⟨l,hl,hdev⟩ := h.kept e he
      exact ⟨l,(Store.mem_insert hfresh).mpr (Or.inl hl),hdev⟩

/-- A change of the link of a device, in step with the history of that device. -/
theorem modify (h : Custody n k a) {l : SubscriptionLink} (hl : l∈a.subscriptionLinks.rows)
    {f : SubscriptionLink → SubscriptionLink} (hf : ∀ x,(f x).id=x.id)
    (hdev : ∀ x,(f x).deviceId=x.deviceId) {k' : Tokens} (hn : n≤ m)
    (hothers : ∀ e,e≠l.deviceId → k'.issued e=k.issued e ∧ k'.live e=k.live e)
    (hhead : (k'.issued l.deviceId).head?=some (f l).tokenHash.preimage)
    (hlive : (f l).status=.active ↔ k'.live l.deviceId=true)
    (hdrawn : ∀ e t,t∈k'.issued e → ∃ i,t=.generated i ∧ i< m)
    (hapart : ∀ d e t,t∈k'.issued d → t∈k'.issued e → d=e) (honce : ∀ d,(k'.issued d).Nodup) :
    Custody m k' {a with subscriptionLinks := a.subscriptionLinks.modify l.id f hf} := by
  have hdiff : ∀ x∈a.subscriptionLinks.rows,x.id≠l.id → x.deviceId≠l.deviceId := by
    intro x hx hid hd
    exact hid (congrArg SubscriptionLink.id (h.lone x hx l hl hd))
  refine ⟨fun x hx => ?_,fun x hx y hy hxy => ?_,fun e he => ?_,hdrawn,hapart,honce⟩
  · rcases (Store.mem_modify_row hf hl).mp hx with rfl|⟨hx,hid⟩
    · rw [hf,hdev]
      obtain ⟨hlid,hld,_⟩ := h.rows l hl
      exact ⟨hlid.trans_le hn,hld.trans_le hn,hhead,hlive⟩
    · obtain ⟨hxid,hxd,hxhead,hxlive⟩ := h.rows x hx
      obtain ⟨hsame,hsamelive⟩ := hothers x.deviceId (hdiff x hx hid)
      rw [hsame,hsamelive]
      exact ⟨hxid.trans_le hn,hxd.trans_le hn,hxhead,hxlive⟩
  · rcases (Store.mem_modify_row hf hl).mp hx with rfl|⟨hx,hid⟩
    · rcases (Store.mem_modify_row hf hl).mp hy with rfl|⟨hy,hid'⟩
      · rfl
      · rw [hdev] at hxy
        exact absurd hxy.symm (hdiff y hy hid')
    · rcases (Store.mem_modify_row hf hl).mp hy with rfl|⟨hy,_⟩
      · rw [hdev] at hxy
        exact absurd hxy (hdiff x hx hid)
      · exact h.lone x hx y hy hxy
  · by_cases hed : e=l.deviceId
    · exact ⟨f l,(Store.mem_modify_row hf hl).mpr (Or.inl rfl),by rw [hdev,hed]⟩
    · rw [(hothers e hed).1] at he
      obtain ⟨x,hx,hxd⟩ := h.kept e he
      have hid : x.id≠l.id := by
        intro hid
        rw [Store.eq_of_key hx hl hid] at hxd
        exact hed hxd.symm
      exact ⟨x,(Store.mem_modify_row hf hl).mpr (Or.inr ⟨hx,hid⟩),hxd⟩

theorem rotate (h : Custody n k a) {l : SubscriptionLink} (hl : l∈a.subscriptionLinks.rows)
    (now : Time) (hn : n< m) : Custody m (k.issue l.deviceId (.generated n)) {a with
      subscriptionLinks := a.subscriptionLinks.modify l.id (rotatedLink (.generated n) now)
        fun _ => rfl} := by
  obtain ⟨hdrawn,hapart,honce⟩ := h.issue_history hn l.deviceId
  have hf : ∀ x,(rotatedLink (.generated n) now x).id=x.id := fun _ => rfl
  have hdev : ∀ x,(rotatedLink (.generated n) now x).deviceId=x.deviceId := fun _ => rfl
  apply h.modify hl hf hdev hn.le
  · intro e he
    simp [Tokens.issue,he]
  · simp [Tokens.issue,rotatedLink]
  · simp [Tokens.issue,rotatedLink]
  · exact hdrawn
  · exact hapart
  · exact honce

theorem withdraw (h : Custody n k a) {l : SubscriptionLink} (hl : l∈a.subscriptionLinks.rows)
    (now : Time) : Custody n (k.withdraw l.deviceId) {a with
      subscriptionLinks := a.subscriptionLinks.modify l.id
        (fun x => {x with status := .revoked,revokedAt := some now}) fun _ => rfl} := by
  let f : SubscriptionLink → SubscriptionLink :=
    fun x => {x with status := .revoked,revokedAt := some now}
  have hf : ∀ x,(f x).id=x.id := fun _ => rfl
  have hdev : ∀ x,(f x).deviceId=x.deviceId := fun _ => rfl
  apply h.modify hl hf hdev le_rfl
  · intro e he
    simp [Tokens.withdraw,he]
  · exact (h.rows l hl).2.2.1
  · simp [f,Tokens.withdraw]
  · exact h.drawn
  · exact h.apart
  · exact h.once

end Custody

abbrev termsFrame : Frame Session :=
  keeping fun s => s.db.subscriptionLinks.rows.map SubscriptionLink.terms

theorem terms_of_links {s t : Session} (h : t.db.subscriptionLinks=s.db.subscriptionLinks)
    (hs : s.serial≤t.serial) : termsFrame.rel s t :=
  ⟨congrArg (fun x => x.rows.map SubscriptionLink.terms) h,hs⟩

theorem terms_of_contract {s t : Session} (h : contractFrame.rel s t) : termsFrame.rel s t :=
  terms_of_links (links_of_contract h) h.2

theorem terms_of_fleet {s t : Session} (h : fleetFrame.rel s t) : termsFrame.rel s t := by
  obtain ⟨hview,hs⟩ := h
  simp only [fleetView,Prod.mk.injEq] at hview
  exact terms_of_links hview.2.2.2.2.2.1 hs

theorem recordAccess_terms (link : SubscriptionLink) : Within termsFrame (recordAccess link) := by
  refine getNow_within.bind fun now s => ⟨?_,le_rfl⟩
  let f : SubscriptionLink → SubscriptionLink :=
    fun l => {l with lastAccessedAt := some now,accessCount := l.accessCount+1}
  have hf : ∀ l,(f l).id=l.id := fun _ => rfl
  show (s.db.subscriptionLinks.modify link.id f hf).rows.map SubscriptionLink.terms=_
  rw [Store.rows_modify,List.map_map]
  apply List.map_congr_left
  intro l _
  by_cases hl : l.id=link.id
  · simp [hl,f,SubscriptionLink.terms]
  · simp [hl]

theorem deliver_terms (token : Secret) : Within termsFrame (deliver token) :=
  deliver_within recordAccess_terms token

theorem runOnce_terms (asOf : Option Time) : Within termsFrame (runOnce asOf) :=
  runOnce_within (fun h => terms_of_contract (contract_of_core (core_of_audit h)))
    (fun _ _ => ⟨rfl,le_rfl⟩)
    (fun d => (disable_hosting d).mono fun h => terms_of_contract (contract_of_hosting h)) asOf

/-- The requests that give a device a token or withdraw it. -/
def Request.handlesToken : Request → Bool
  | .createDevice .. | .device _ _ .createOrRotateLink | .device _ _ .revokeLink => true
  | _ => false

theorem handle_terms (cfg : Settings) {r : Request} (hr : r.handlesToken=false) :
    Within termsFrame (handle cfg r) := by
  cases r with
  | billing r => exact (handleBilling_fleet cfg r).mono terms_of_fleet
  | routing r => exact (handleRouting_core _ r).mono fun h => terms_of_fleet (fleet_of_core h)
  | servers r => exact (handleServers_contract r).mono terms_of_contract
  | listDevices telegramId =>
    exact (currentUser_within telegramId).bind fun _ => getDb_within.bind fun _ => Within.pure _
  | createDevice telegramId name serverId protocol => cases hr
  | device telegramId d op =>
    refine (currentUser_within telegramId).bind fun user => (getOwned_within d user.id).bind
      fun device => ?_
    apply Within.mono (handleDevice_contract cfg device op _ _) terms_of_contract
    · rintro rfl
      cases hr
    · rintro rfl
      cases hr
  | fetchSubscription token => exact (deliver_terms token).bind fun _ => Within.pure _
  | sweep asOf => exact (runOnce_terms asOf).bind fun _ => Within.pure _

theorem generateQrCode_yields (content : QrContent) :
    Yields (fun c => c=content) (generateQrCode content) := by
  intro s c t h
  unfold generateQrCode at h
  rw [Eff.reads_bind_run] at h
  by_cases hfits : s.qrFits content=true
  · rw [if_pos hfits] at h
    cases h
    rfl
  · rw [if_neg hfits] at h
    cases h

theorem refreshed_yields (device : Device) :
    Yields (fun d => d.id=device.id) (refreshed device) := by
  intro s d t h
  unfold refreshed at h
  rw [getDb_bind_run] at h
  cases h
  cases hget : s.db.devices.get? device.id with
  | none => rfl
  | some x => exact Store.key_of_get? hget

theorem reissue_yields (cfg : Settings) (device : Device) :
    Yields (fun p => p.subscriptionUrl=none) (reissue cfg device) :=
  Yields.bind fun _ => Yields.bind fun _ => Yields.bind fun _ => Yields.bind fun _ =>
    Yields.bind fun _ => Yields.bind fun _ => Yields.bind fun _ => Yields.bind fun _ =>
    Yields.pure rfl

/-- The other requests answer with no token. -/
theorem handle_token (cfg : Settings) {r : Request} (hr : r.handlesToken=false) :
    Yields (fun a => a.token=none) (handle cfg r) := by
  cases r with
  | billing r =>
    cases r with
    | authenticateTelegram payload => exact Yields.bind fun _ => Yields.pure rfl
    | updateUserStatus adminId userId status => exact Yields.bind fun _ => Yields.pure rfl
    | createPlan adminId payload =>
      exact Yields.bind fun _ => Yields.bind fun _ => Yields.pure rfl
    | updatePlan adminId planId payload =>
      exact Yields.bind fun _ => Yields.bind fun _ => Yields.pure rfl
    | createPayment telegramId planId promoCode =>
      exact Yields.bind fun _ => Yields.bind fun _ => Yields.bind fun _ => Yields.pure rfl
    | paymentWebhook rawBody signature => exact Yields.bind fun _ => Yields.pure rfl
    | refundPayment adminId paymentId => exact Yields.bind fun _ => Yields.pure rfl
    | cancelSubscription telegramId subscriptionId =>
      exact Yields.bind fun _ => Yields.pure rfl
    | addPromoCode code discountType discountValue maxUses validFrom validUntil active =>
      exact Yields.bind fun _ => Yields.pure rfl
    | setDeviceLimitOverride subscriptionId limit => exact Yields.bind fun _ => Yields.pure rfl
  | routing r =>
    cases r with
    | createCategory adminId name description =>
      exact Yields.bind fun _ => Yields.bind fun _ => Yields.pure rfl
    | addRule categoryId domain routeType enabled => exact Yields.bind fun _ => Yields.pure rfl
    | getMySettings telegramId => exact Yields.bind fun _ => Yields.bind fun _ => Yields.pure rfl
    | setMyMode telegramId mode =>
      exact Yields.bind fun _ => Yields.bind fun _ => Yields.bind fun _ => Yields.pure rfl
    | setMyCategory telegramId categoryId enabled =>
      exact Yields.bind fun _ => Yields.bind fun _ => Yields.bind fun _ => Yields.pure rfl
    | addMyDomain telegramId domain routeType =>
      exact Yields.bind fun _ => Yields.bind fun _ => Yields.bind fun _ => Yields.pure rfl
  | servers r =>
    cases r with
    | createServer adminId payload =>
      exact Yields.bind fun _ => Yields.bind fun _ => Yields.pure rfl
    | updateServer adminId serverId payload =>
      exact Yields.bind fun _ => Yields.bind fun _ => Yields.pure rfl
    | deleteServer adminId serverId =>
      exact Yields.bind fun _ => Yields.bind fun _ => Yields.pure rfl
    | createVlessServer adminId payload =>
      exact Yields.bind fun _ => Yields.bind fun _ => Yields.pure rfl
    | updateVlessServer adminId serverId payload =>
      exact Yields.bind fun _ => Yields.bind fun _ => Yields.pure rfl
    | deleteVlessServer adminId serverId =>
      exact Yields.bind fun _ => Yields.bind fun _ => Yields.pure rfl
  | listDevices telegramId => exact Yields.bind fun _ => Yields.bind fun _ => Yields.pure rfl
  | createDevice telegramId name serverId protocol => cases hr
  | device telegramId d op =>
    refine Yields.bind fun user => Yields.bind fun device => ?_
    cases op with
    | reissue =>
      refine (reissue_yields cfg device).bind_of fun p hp => Yields.pure ?_
      simp only [Response.token,hp,Option.bind_none]
    | disable => exact Yields.bind fun _ => Yields.bind fun _ => Yields.pure rfl
    | enable => exact Yields.bind fun _ => Yields.bind fun _ => Yields.pure rfl
    | revoke => exact Yields.bind fun _ => Yields.bind fun _ => Yields.pure rfl
    | createOrRotateLink => cases hr
    | getLink => exact Yields.bind fun _ => Yields.pure rfl
    | revokeLink => cases hr
    | getProfile => exact Yields.bind fun _ => Yields.pure rfl
    | refreshProfile => exact Yields.bind fun _ => Yields.pure rfl
  | fetchSubscription token => exact Yields.bind fun _ => Yields.pure rfl
  | sweep asOf => exact Yields.bind fun _ => Yields.pure rfl

section

variable {cfg : Settings} {k : Tokens} {s t : Session}

theorem createOrRotate_custody {d : Id} {a : SubscriptionLink×Secret}
    (hs : Custody s.serial k s.db) (hd : d<s.serial) (h : createOrRotate d s=(.ok a,t)) :
    a.1.deviceId=d ∧ Custody t.serial (k.issue d a.2) t.db := by
  unfold createOrRotate at h
  rw [nextSerial_bind_run,getNow_bind_run,getDb_bind_run] at h
  cases hl : s.db.linkOf d with
  | none =>
    simp only [hl] at h
    rw [nextSerial_bind_run] at h
    obtain ⟨_,u,hu,h⟩ := Eff.bind_ok.mp h
    cases hu
    obtain ⟨_,v,hv,h⟩ := Eff.bind_ok.mp h
    obtain ⟨os,rfl⟩ := flush_ok hv
    cases h
    have hfirst : s.serial<s.serial+1 := Int.lt_succ _
    have hlast : s.serial+1<s.serial+1+1 := Int.lt_succ _
    exact ⟨rfl,hs.insert hl (hd.trans (hfirst.trans hlast)) hfirst.le hlast⟩
  | some l =>
    simp only [hl] at h
    obtain ⟨_,u,hu,h⟩ := Eff.bind_ok.mp h
    cases hu
    obtain ⟨_,v,hv,h⟩ := Eff.bind_ok.mp h
    obtain ⟨os,rfl⟩ := flush_ok hv
    cases h
    obtain ⟨hmem,hdev⟩ := Database.linkOf_mem hl
    have hrotated := hs.rotate hmem s.now (Int.lt_succ s.serial)
    rw [hdev] at hrotated
    exact ⟨hdev,hrotated⟩

theorem Custody.of_contract (hs : Custody s.serial k s.db) (h : contractFrame.rel s t) :
    Custody t.serial k t.db :=
  (hs.later h.2).of_terms (congrArg (fun x => x.rows.map SubscriptionLink.terms)
    (links_of_contract h))

/-- A new device comes with its first token. -/
theorem provision_custody {user : User} {name : String} {requested : Option Id}
    {protocol : VpnProtocol} {r : ProvisionedDevice} (hs : Custody s.serial k s.db)
    (h : provision cfg user name requested protocol s=(.ok r,t)) :
    ∃ base token,r.subscriptionUrl=some (.url base token) ∧
      Custody t.serial (k.issue r.device.id token) t.db := by
  obtain ⟨_,a,ha,h⟩ := Eff.bind_ok.mp h
  obtain ⟨hsa,_⟩ := enforceDeviceLimit_ok ha
  subst hsa
  have hadded : ∀ {sid : Option Id} {device : Device} {u : Session},
      addDevice user.id name sid protocol s=(.ok device,u) →
        Custody u.serial k u.db ∧ device.id<u.serial := by
    intro sid device u hu
    obtain ⟨_,hdevice,os,hus⟩ := addDevice_ok hu
    rw [hus,hdevice]
    exact ⟨(hs.later (Int.lt_succ _).le).of_terms rfl,Int.lt_succ _⟩
  cases protocol with
  | wireguard =>
    obtain ⟨server,b,hb,h⟩ := Eff.bind_ok.mp h
    obtain ⟨hsb,_⟩ := chooseServer_ok hb
    subst hsb
    obtain ⟨device,u,hu,h⟩ := Eff.bind_ok.mp h
    obtain ⟨hcustody,hid⟩ := hadded hu
    obtain ⟨link,v,hv,h⟩ := Eff.bind_ok.mp h
    obtain ⟨_,hlinked⟩ := createOrRotate_custody hcustody hid hv
    have hvalue : r.subscriptionUrl=some (.url cfg.subscriptionBaseUrl link.2) ∧
        r.device.id=device.id := by
      refine (Yields.bind fun _ => Yields.bind fun _ => Yields.bind fun _ => Yields.bind fun _ =>
        Yields.bind fun _ => (generateQrCode_yields _).bind_of fun url hurl =>
        (refreshed_yields device).bind_of fun d hd => Yields.pure ?_ :
        Yields (fun r => r.subscriptionUrl=some (.url cfg.subscriptionBaseUrl link.2) ∧
          r.device.id=device.id) _) v r t h
      exact ⟨congrArg some hurl,hd⟩
    have hrest : contractFrame.rel v t := by
      refine WithinAt.rel_of_run ?_ h
      exact (((createPeerAttempts_hosting cfg device.id server 5).mono contract_of_hosting).bind fun _ =>
        Within.bind (alter_contract fun _ => rfl) fun _ =>
        Within.bind (alter_contract fun _ => rfl) fun _ =>
        (regenerateProfile_contract cfg _ _).bind fun _ => (generateQrCode_within _).bind fun _ =>
        (generateQrCode_within _).bind fun _ => (refreshed_within _).bind fun _ =>
        Within.pure _) v
    refine ⟨_,_,hvalue.1,?_⟩
    rw [hvalue.2]
    exact hlinked.of_contract hrest
  | vless =>
    obtain ⟨server,b,hb,h⟩ := Eff.bind_ok.mp h
    obtain ⟨hsb,_⟩ := chooseServer_ok hb
    subst hsb
    rw [getDb_bind_run] at h
    obtain ⟨config,_,h⟩ := Eff.orRaise_bind_ok.mp h
    obtain ⟨device,u,hu,h⟩ := Eff.bind_ok.mp h
    obtain ⟨hcustody,hid⟩ := hadded hu
    obtain ⟨link,v,hv,h⟩ := Eff.bind_ok.mp h
    obtain ⟨_,hlinked⟩ := createOrRotate_custody hcustody hid hv
    have hvalue : r.subscriptionUrl=some (.url cfg.subscriptionBaseUrl link.2) ∧
        r.device.id=device.id := by
      refine (Yields.bind fun _ => Yields.bind fun _ => Yields.bind fun _ => Yields.bind fun _ =>
        Yields.bind fun _ => Yields.bind fun _ => Yields.bind fun _ => Yields.bind fun _ =>
        Yields.bind fun _ => (generateQrCode_yields _).bind_of fun url hurl => Yields.pure ?_ :
        Yields (fun r => r.subscriptionUrl=some (.url cfg.subscriptionBaseUrl link.2) ∧
          r.device.id=device.id) _) v r t h
      exact ⟨congrArg some hurl,rfl⟩
    have hrest : contractFrame.rel v t := by
      refine WithinAt.rel_of_run ?_ h
      exact ((nextSerial_within contract_books).bind fun _ => getNow_within.bind fun _ =>
        ((xrayRequest_hosting _ _).mono contract_of_hosting).bind fun _ =>
        (nextSerial_within contract_books).bind fun _ =>
        (flush_within contract_books).bind fun _ => getDb_within.bind fun _ =>
        (Within.require _ _).bind fun _ => Within.bind (alter_contract fun _ => rfl) fun _ =>
        Within.bind (alter_contract fun _ => rfl) fun _ => (generateQrCode_within _).bind fun _ =>
        Within.pure _) v
    refine ⟨_,_,hvalue.1,?_⟩
    rw [hvalue.2]
    exact hlinked.of_contract hrest

theorem record_untold {r : Request} {a : Response} (hr : r.handlesToken=false)
    (ha : a.token=none) : k.record r (.ok a)=k := by
  unfold Tokens.record
  simp only [ha]
  cases r with
  | device telegramId d op =>
    cases op with
    | revokeLink => cases hr
    | reissue => rfl
    | disable => rfl
    | enable => rfl
    | revoke => rfl
    | createOrRotateLink => rfl
    | getLink => rfl
    | getProfile => rfl
    | refreshProfile => rfl
  | billing r => rfl
  | routing r => rfl
  | servers r => rfl
  | listDevices telegramId => rfl
  | createDevice telegramId name serverId protocol => rfl
  | fetchSubscription token => rfl
  | sweep asOf => rfl

/-- The history told of by an answer is the one the links hold then. -/
theorem handle_custody {r : Request} {a : Response} (hsound : Consistent s.serial s.db)
    (hs : Custody s.serial k s.db) (h : handle cfg r s=(.ok a,t)) :
    Custody t.serial (k.record r (.ok a)) t.db := by
  by_cases hr : r.handlesToken=false
  · have hterms : termsFrame.rel s t := (handle_terms cfg hr s).rel_of_run h
    have hnone : a.token=none := handle_token cfg hr s a t h
    rw [record_untold hr hnone]
    exact (hs.later hterms.2).of_terms hterms.1
  · cases r with
    | createDevice telegramId name requested protocol =>
      obtain ⟨user,u,hu,h⟩ := Eff.bind_ok.mp h
      obtain ⟨hsu,_⟩ := currentUser_ok hu
      subst hsu
      obtain ⟨p,v,hv,h⟩ := Eff.bind_ok.mp h
      cases h
      obtain ⟨base,token,hurl,hcustody⟩ := provision_custody hs hv
      simpa only [Tokens.record,Response.token,hurl,Option.bind_some] using hcustody
    | device telegramId d op =>
      rcases handleOwned_run cfg telegramId d op s with ⟨e,he⟩|⟨user,device,_,hget,_,hrun⟩
      · have hbad : (Except.ok a,t)=(Except.error e,s) := h.symm.trans he
        cases hbad
      have hop : handleDevice cfg device op s=(.ok a,t) := hrun.symm.trans h
      have hid : device.id=d := Store.key_of_get? hget
      have hlt : device.id<s.serial := hsound.devices device (Store.mem_of_get? hget)
      cases op with
      | createOrRotateLink =>
        obtain ⟨link,v,hv,hop⟩ := Eff.bind_ok.mp hop
        obtain ⟨hdev,hlinked⟩ := createOrRotate_custody hs hlt hv
        obtain ⟨url,x,hx,hop⟩ := Eff.bind_ok.mp hop
        have hurl := generateQrCode_yields _ v url x hx
        have hvx : x=v := ((generateQrCode_within _ : Within Frame.still _) v).still_run hx
        cases hop
        subst hvx hurl
        simpa only [Tokens.record,Response.token,hdev] using hlinked
      | revokeLink =>
        obtain ⟨link,v,hv,hrest⟩ := Eff.bind_ok.mp hop
        obtain ⟨hlink,hvs⟩ := Eff.orRaise_ok.mp hv
        subst hvs
        obtain ⟨_,x,hx,hlast⟩ := Eff.bind_ok.mp hrest
        cases hx
        cases hlast
        obtain ⟨hmem,hdev⟩ := Database.linkOf_mem hlink
        have hwithdrawn := hs.withdraw hmem v.now
        rw [hdev,hid] at hwithdrawn
        exact hwithdrawn
      | reissue => exact absurd rfl hr
      | disable => exact absurd rfl hr
      | enable => exact absurd rfl hr
      | revoke => exact absurd rfl hr
      | getLink => exact absurd rfl hr
      | getProfile => exact absurd rfl hr
      | refreshProfile => exact absurd rfl hr
    | billing r => exact absurd rfl hr
    | routing r => exact absurd rfl hr
    | servers r => exact absurd rfl hr
    | listDevices telegramId => exact absurd rfl hr
    | fetchSubscription token => exact absurd rfl hr
    | sweep asOf => exact absurd rfl hr

end

theorem recording_custody {cfg : Settings} {x : World×Tokens} {c : Call} (hsound : Sound x.1)
    (hs : Custody x.1.serial x.2 x.1.db) :
    Custody (recording cfg x c).1.serial (recording cfg x c).2 (recording cfg x c).1.db := by
  unfold recording after
  rcases serve_cases cfg c.env c.request x.1 with ⟨a,s,hm,hserve⟩|⟨r,e,s,hm,hserve⟩
  · rw [hserve]
    exact handle_custody hsound.consistent hs hm
  · rw [hserve]
    exact hs.later (handle_serial cfg c.request hsound hm)

/-- The state and the tokens told of after a run. -/
def recorded (cfg : Settings) (cs : List Call) : World×Tokens :=
  cs.foldl (recording cfg) (.initial,.empty)

theorem recorded_custody (cfg : Settings) (cs : List Call) : Sound (recorded cfg cs).1 ∧
    Custody (recorded cfg cs).1.serial (recorded cfg cs).2 (recorded cfg cs).1.db := by
  induction cs using List.reverseRecOn with
  | nil => exact ⟨sound_initial,custody_empty _⟩
  | append_singleton cs c ih =>
    unfold recorded at ih ⊢
    rw [List.foldl_append]
    exact ⟨after_sound ih.1,recording_custody ih.1 ih.2⟩

theorem resolveToken_run (t : Secret) (s : Session) : resolveToken t s=
    (.ok (if t=.text "" then none else s.db.linkByTokenHash ⟨t⟩),s) := by
  unfold resolveToken
  by_cases ht : t=.text ""
  · simp [ht]
  · simp only [ht,if_false]
    rfl

section

variable {n : Int} {k : Tokens} {db : Database}

theorem Custody.resolves_iff (h : Custody n k db) {d : Id} {t : Secret} :
    (∃ l,db.linkByTokenHash ⟨t⟩=some l ∧ l.status=.active ∧ l.deviceId=d) ↔ k.Works d t := by
  constructor
  · rintro ⟨l,hl,hact,rfl⟩
    have hmem : l∈db.subscriptionLinks.rows := List.mem_of_find?_eq_some hl
    have hhash : l.tokenHash=⟨t⟩ := by simpa using List.find?_some hl
    obtain ⟨_,_,hhead,hlive⟩ := h.rows l hmem
    rw [hhash] at hhead
    exact ⟨hhead,hlive.mp hact⟩
  · rintro ⟨hhead,hlive⟩
    have hissued : t∈k.issued d := List.mem_of_head? hhead
    obtain ⟨l,hl,rfl⟩ := h.kept d (List.ne_nil_of_mem hissued)
    obtain ⟨_,_,hlast,hact⟩ := h.rows l hl
    rw [hhead,Option.some.injEq] at hlast
    have hhash : l.tokenHash=⟨t⟩ := by rw [hlast]
    cases hfind : db.linkByTokenHash ⟨t⟩ with
    | none =>
      have hno := List.find?_eq_none.mp hfind l hl
      simp [hhash] at hno
    | some x =>
      have hx : x∈db.subscriptionLinks.rows := List.mem_of_find?_eq_some hfind
      have hxhash : x.tokenHash=⟨t⟩ := by simpa using List.find?_some hfind
      have hxissued : t∈k.issued x.deviceId := by
        have hxhead := (h.rows x hx).2.2.1
        rw [hxhash] at hxhead
        exact List.mem_of_head? hxhead
      have hxl : x=l := h.lone x hx l hl (h.apart _ _ t hxissued hissued)
      exact ⟨x,rfl,by rw [hxl]; exact hact.mpr hlive,by rw [hxl]⟩

/-- A token that another one has followed is in no row. -/
theorem Custody.resolves_none (h : Custody n k db) {d : Id} {t : Secret}
    (ht : t∈(k.issued d).tail) : db.linkByTokenHash ⟨t⟩=none := by
  apply List.find?_eq_none.mpr
  intro l hl hhash
  have hhash : l.tokenHash=⟨t⟩ := by simpa using hhash
  have hhead := (h.rows l hl).2.2.1
  rw [hhash] at hhead
  have hd : l.deviceId=d :=
    h.apart _ _ t (List.mem_of_head? hhead) (List.mem_of_mem_tail ht)
  rw [hd] at hhead
  have honce := h.once d
  cases hk : k.issued d with
  | nil =>
    rw [hk] at ht
    cases ht
  | cons x xs =>
    rw [hk] at ht hhead honce
    cases hhead
    exact (List.nodup_cons.mp honce).1 ht

end

/-- A token that another one has followed stays behind it. -/
theorem record_tail {k : Tokens} {d : Id} {t : Secret} (h : t∈(k.issued d).tail) (r : Request)
    (x : Except AppError Response) : t∈((k.record r x).issued d).tail := by
  unfold Tokens.record
  cases x with
  | error e => exact h
  | ok a =>
    simp only
    split
    · rename_i e u _
      by_cases hd : d=e
      · simp only [Tokens.issue,hd,if_true,List.tail_cons]
        rw [hd] at h
        exact List.mem_of_mem_tail h
      · simpa only [Tokens.issue,hd,if_false] using h
    · exact h
    · exact h

theorem recorded_tail {cfg : Settings} {cs : List Call} {d : Id} {t : Secret}
    (h : t∈((recorded cfg cs).2.issued d).tail) (cs' : List Call) :
    t∈((recorded cfg (cs++cs')).2.issued d).tail := by
  induction cs' using List.reverseRecOn with
  | nil =>
    rw [List.append_nil]
    exact h
  | append_singleton cs' c ih =>
    rw [← List.append_assoc]
    unfold recorded at ih ⊢
    rw [List.foldl_append]
    exact record_tail ih _ _

/-- In every run, a token yields an active link of a device just when it is the last one the
device was given and no revocation came after it; the earlier ones yield nothing from then on. -/
theorem last_token_works (cfg : Settings) (cs : List Call) (env : Env) (d : Id) (t : Secret) :
    ((∃ l,(resolveToken t ⟨(recorded cfg cs).1,env⟩).1=.ok (some l) ∧ l.status=.active ∧
      l.deviceId=d) ↔ (recorded cfg cs).2.Works d t) ∧
    (t∈((recorded cfg cs).2.issued d).tail → ∀ cs',
      (resolveToken t ⟨(recorded cfg (cs++cs')).1,env⟩).1=.ok none) := by
  have hdrawn : ∀ cs,t∈(recorded cfg cs).2.issued d → t≠.text "" := by
    rintro cs ht rfl
    obtain ⟨i,hi,_⟩ := (recorded_custody cfg cs).2.drawn d _ ht
    cases hi
  have hcustody := (recorded_custody cfg cs).2
  constructor
  · rw [← hcustody.resolves_iff,resolveToken_run]
    by_cases ht : t=.text ""
    · simp only [ht,if_true]
      constructor
      · rintro ⟨l,hl,_⟩
        cases hl
      · rintro ⟨l,hl,hact,hd⟩
        rw [← ht] at hl
        have hworks := hcustody.resolves_iff.mp ⟨l,hl,hact,hd⟩
        exact absurd ht (hdrawn cs (List.mem_of_head? hworks.1))
    · simp only [ht,if_false,Except.ok.injEq]
  · intro ht cs'
    have hlater := recorded_tail ht cs'
    rw [resolveToken_run,if_neg (hdrawn (cs++cs') (List.mem_of_mem_tail hlater)),
      (recorded_custody cfg (cs++cs')).2.resolves_none hlater]

end VpnService.Backend
