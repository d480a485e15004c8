import VpnService.Bot.Handlers
import Mathlib.Data.List.Induction

namespace VpnService.Bot

/-- A prompt for a text. -/
inductive Prompt
  | deviceName (serverId : Option Int) (protocol : String)
  | customDomain
  | supportMessage
  deriving DecidableEq

inductive PromptKind | deviceName | customDomain | supportMessage
  deriving DecidableEq

def Prompt.kind : Prompt → PromptKind
  | .deviceName _ _ => .deviceName
  | .customDomain => .customDomain
  | .supportMessage => .supportMessage

/-- What a text means in answer to the prompt. -/
def Prompt.answer (lower : String → String) (text : String) : Prompt → BackendCall
  | .deviceName serverId protocol => .createDevice (Bot.deviceName text) serverId protocol
  | .customDomain => .addCustomDomain (Bot.customDomain lower text)
  | .supportMessage => .createSupportTicket (ticketSubject text) (ticketMessage text)

/-- The prompt an update shows. -/
def Update.shows : Update → Option Prompt
  | .callback data => match route data with
    | some .deviceNew => ((parts data)[2]?.bind Agent.parseInt).map fun serverId =>
      .deviceName (some serverId) "wireguard"
    | some .deviceNewProtocol => some (.deviceName none (chosenProtocol data))
    | some .smartVpnAddDomainPrompt => some .customDomain
    | some .supportMenu => some .supportMessage
    | _ => none
  | .command name => if name="support" then some .supportMessage else none
  | _ => none

def lastShown (updates : List Update) : Option Prompt := (updates.filterMap Update.shows).getLast?

/-- The prompts shown since the last text, with this update. -/
def await (prompts : List Prompt) : Update → List Prompt
  | .text _ => []
  | u => prompts++u.shows.toList

/-- The prompts shown since the last text. -/
def unanswered (updates : List Update) : List Prompt := updates.foldl await []

/-- What the text calls after these updates. -/
def calls (lower : String → String) (updates : List Update) (text : String) : List BackendCall :=
  (handleText lower text (userData lower updates)).1

/-- Every text is taken as nothing, or as an answer to the prompt shown last. -/
def OneMeaning (lower : String → String) (updates : List Update) : Prop :=
  ∀ before text after,updates=before++.text text::after →
    calls lower before text=[] ∨
      ∃ p,lastShown before=some p ∧ calls lower before text=[p.answer lower text]

/-- Between two texts only prompts of one kind are shown. -/
def Unmixed (updates : List Update) : Prop :=
  ∀ before text after,updates=before++.text text::after →
    ∀ p∈unanswered before,∀ q∈unanswered before,p.kind=q.kind

/-- What a prompt leaves in the user data. -/
def Prompt.note (d : UserData) : Prompt → UserData
  | .deviceName serverId protocol => awaitDeviceName serverId protocol d
  | .customDomain => smartVpnAddDomainPromptCallback d
  | .supportMessage => supportMenuCallback d

def noted (prompts : List Prompt) : UserData := prompts.foldl Prompt.note .empty

theorem noted_append (prompts : List Prompt) (p : Prompt) :
    noted (prompts++[p])=p.note (noted prompts) := by
  unfold noted
  rw [List.foldl_append]
  rfl

def BackendCall.kind : BackendCall → PromptKind
  | .createDevice _ _ _ => .deviceName
  | .addCustomDomain _ => .customDomain
  | .createSupportTicket _ _ => .supportMessage

def UserData.awaits (d : UserData) : PromptKind → Bool
  | .deviceName => d.awaitingDeviceName
  | .customDomain => d.awaitingCustomDomain
  | .supportMessage => d.awaitingSupportMessage

/-- A pending server or protocol is one of a device that waits for its name. -/
def UserData.Tidy (d : UserData) : Prop :=
  d.awaitingDeviceName=false → d.pendingDeviceServerId=none ∧ d.pendingDeviceProtocol=none

section

variable {lower : String → String} {d : UserData} {p : Prompt} {prompts : List Prompt}
  {text : String}

theorem note_awaits (k : PromptKind) :
    (p.note d).awaits k=true ↔ d.awaits k=true ∨ p.kind=k := by
  cases p <;> cases k <;> simp [Prompt.note,Prompt.kind,UserData.awaits,awaitDeviceName,
    smartVpnAddDomainPromptCallback,supportMenuCallback]

theorem noted_awaits (k : PromptKind) :
    (noted prompts).awaits k=true ↔ ∃ p∈prompts,p.kind=k := by
  induction prompts using List.reverseRecOn with
  | nil => cases k <;> simp [noted,UserData.empty,UserData.awaits]
  | append_singleton prompts p ih =>
    rw [noted_append,note_awaits,ih]
    simp [or_and_right,exists_or]

theorem note_tidy (h : d.Tidy) : (p.note d).Tidy := by
  cases p with
  | deviceName serverId protocol => exact fun hno => nomatch hno
  | customDomain => exact h
  | supportMessage => exact h

theorem noted_tidy : (noted prompts).Tidy := by
  induction prompts using List.reverseRecOn with
  | nil => exact fun _ => ⟨rfl,rfl⟩
  | append_singleton prompts p ih =>
    rw [noted_append]
    exact note_tidy ih

/-- A text takes every prompt back. -/
theorem handleText_empties (h : d.Tidy) : (handleText lower text d).2=.empty := by
  obtain ⟨device,serverId,protocol,domain,support⟩ := d
  cases device with
  | true =>
    cases domain <;> cases support <;> rfl
  | false =>
    obtain ⟨hserver,hprotocol⟩ := h rfl
    simp only at hserver hprotocol
    subst hserver
    subst hprotocol
    cases domain <;> cases support <;> rfl

theorem handleText_calls : (handleText lower text d).1=
    (if d.awaitingDeviceName then [.createDevice (deviceName text)
      (d.pendingDeviceServerId.getD none) (d.pendingDeviceProtocol.getD "wireguard")] else [])++
    (if d.awaitingCustomDomain then [.addCustomDomain (customDomain lower text)] else [])++
    (if d.awaitingSupportMessage then
      [.createSupportTicket (ticketSubject text) (ticketMessage text)] else []) := by
  obtain ⟨device,serverId,protocol,domain,support⟩ := d
  cases device <;> cases domain <;> cases support <;> rfl

/-- A prompt of each kind that waits is answered. -/
theorem handleText_kinds (k : PromptKind) :
    (∃ c∈(handleText lower text d).1,c.kind=k) ↔ d.awaits k=true := by
  rw [handleText_calls]
  obtain ⟨device,serverId,protocol,domain,support⟩ := d
  cases k <;> cases device <;> cases domain <;> cases support <;>
    simp [BackendCall.kind,UserData.awaits]

/-- Where only prompts of the last one's kind wait, the text answers the last one. -/
theorem handleText_last (h : ∀ q∈prompts,q.kind=p.kind) :
    (handleText lower text (noted (prompts++[p]))).1=[p.answer lower text] := by
  have hall : ∀ q∈prompts++[p],q.kind=p.kind := by
    intro q hq
    rcases List.mem_append.mp hq with hq|hq
    · exact h q hq
    · rw [List.mem_singleton.mp hq]
  have hothers : ∀ k,k≠p.kind → (noted (prompts++[p])).awaits k=false := by
    intro k hk
    rw [← Bool.not_eq_true,noted_awaits]
    intro hwaits
    obtain ⟨q,hq,hkind⟩ := hwaits
    exact hk (hkind.symm.trans (hall q hq))
  have hown : (noted (prompts++[p])).awaits p.kind=true := by
    rw [noted_awaits]
    exact ⟨p,by simp,rfl⟩
  rw [handleText_calls]
  cases p with
  | deviceName serverId protocol =>
    have hdomain : (noted (prompts++[.deviceName serverId protocol])).awaitingCustomDomain=false :=
      hothers .customDomain fun h => by cases h
    have hsupport :
        (noted (prompts++[.deviceName serverId protocol])).awaitingSupportMessage=false :=
      hothers .supportMessage fun h => by cases h
    rw [hdomain,hsupport,noted_append]
    rfl
  | customDomain =>
    have hdevice : (noted (prompts++[.customDomain])).awaitingDeviceName=false :=
      hothers .deviceName (by decide)
    have hdomain : (noted (prompts++[.customDomain])).awaitingCustomDomain=true := hown
    have hsupport : (noted (prompts++[.customDomain])).awaitingSupportMessage=false :=
      hothers .supportMessage (by decide)
    rw [hdevice,hdomain,hsupport]
    rfl
  | supportMessage =>
    have hdevice : (noted (prompts++[.supportMessage])).awaitingDeviceName=false :=
      hothers .deviceName (by decide)
    have hdomain : (noted (prompts++[.supportMessage])).awaitingCustomDomain=false :=
      hothers .customDomain (by decide)
    have hsupport : (noted (prompts++[.supportMessage])).awaitingSupportMessage=true := hown
    rw [hdevice,hdomain,hsupport]
    rfl

end

section

variable {lower : String → String} {updates : List Update} {text : String}

/-- Any update but a text notes the prompt it shows. -/
theorem processUpdate_shows (d : UserData) {u : Update} (hu : ∀ text,u≠.text text) :
    (processUpdate lower d u).2=u.shows.toList.foldl Prompt.note d := by
  cases u with
  | callback data =>
    unfold processUpdate handleCallback Update.shows
    cases hroute : route data with
    | none =>
      simp only [hroute]
      rfl
    | some callback =>
      cases callback with
      | deviceNew =>
        simp only [hroute,deviceNewCallback]
        cases (parts data)[2]?.bind Agent.parseInt <;> rfl
      | _ =>
        simp only [hroute]
        rfl
  | command name =>
    show (if name="support" then supportMenuCallback d else d)=
      (if name="support" then some Prompt.supportMessage else none).toList.foldl Prompt.note d
    split_ifs <;> rfl
  | text text => exact absurd rfl (hu text)
  | editedText text => rfl

/-- The user data are the prompts without an answer. -/
theorem userData_noted : userData lower updates=noted (unanswered updates) := by
  induction updates using List.reverseRecOn with
  | nil => rfl
  | append_singleton updates u ih =>
    have hdata : userData lower (updates++[u])=
        (processUpdate lower (userData lower updates) u).2 := by
      unfold userData
      rw [List.foldl_append]
      rfl
    have hprompts : unanswered (updates++[u])=await (unanswered updates) u := by
      unfold unanswered
      rw [List.foldl_append]
      rfl
    rw [hdata,hprompts,ih]
    by_cases htext : ∃ text,u=.text text
    · obtain ⟨text,hu⟩ := htext
      rw [hu]
      exact handleText_empties noted_tidy
    · have hother : ∀ text,u≠.text text := fun text hu => htext ⟨text,hu⟩
      have hawait : await (unanswered updates) u=unanswered updates++u.shows.toList := by
        cases u with
        | text text => exact absurd rfl (hother text)
        | _ => rfl
      rw [processUpdate_shows _ hother,hawait]
      unfold noted
      rw [List.foldl_append]

theorem shown_unanswered : ∃ older,updates.filterMap Update.shows=older++unanswered updates := by
  induction updates using List.reverseRecOn with
  | nil => exact ⟨[],rfl⟩
  | append_singleton updates u ih =>
    obtain ⟨older,holder⟩ := ih
    have hprompts : unanswered (updates++[u])=await (unanswered updates) u := by
      unfold unanswered
      rw [List.foldl_append]
      rfl
    have hshown : (updates++[u]).filterMap Update.shows=
        updates.filterMap Update.shows++u.shows.toList := by
      rw [List.filterMap_append]
      cases hu : u.shows <;> simp [hu]
    rw [hshown,hprompts,holder]
    cases u with
    | text text => exact ⟨older++unanswered updates,rfl⟩
    | _ => exact ⟨older,List.append_assoc _ _ _⟩

/-- The last of the prompts without an answer is the last that was shown. -/
theorem lastShown_unanswered {prompts : List Prompt} {p : Prompt}
    (h : unanswered updates=prompts++[p]) : lastShown updates=some p := by
  obtain ⟨older,holder⟩ : ∃ older,updates.filterMap Update.shows=older++unanswered updates :=
    shown_unanswered
  unfold lastShown
  rw [holder,h,← List.append_assoc,List.getLast?_concat]

theorem calls_kinds {p : Prompt} (h : p∈unanswered updates) :
    ∃ c∈calls lower updates text,c.kind=p.kind := by
  unfold calls
  rw [handleText_kinds,userData_noted,noted_awaits]
  exact ⟨p,h,rfl⟩

/-- A text has one meaning just when the prompts without an answer are of one kind. -/
theorem meaning_iff :
    (calls lower updates text=[] ∨
        ∃ p,lastShown updates=some p ∧ calls lower updates text=[p.answer lower text]) ↔
      ∀ p∈unanswered updates,∀ q∈unanswered updates,p.kind=q.kind := by
  constructor
  · intro h p hp q hq
    obtain ⟨c,hc,hcp⟩ : ∃ c∈calls lower updates text,c.kind=p.kind := calls_kinds hp
    obtain ⟨c',hc',hcq⟩ : ∃ c∈calls lower updates text,c.kind=q.kind := calls_kinds hq
    rcases h with hnone|⟨r,_,hone⟩
    · rw [hnone] at hc
      cases hc
    · rw [hone] at hc hc'
      rw [← hcp,← hcq,List.mem_singleton.mp hc,List.mem_singleton.mp hc']
  · intro h
    rcases List.eq_nil_or_concat' (unanswered updates) with hnone|⟨prompts,p,hlast⟩
    · left
      unfold calls
      rw [userData_noted,hnone]
      rfl
    · right
      refine ⟨p,lastShown_unanswered hlast,?_⟩
      unfold calls
      rw [userData_noted,hlast]
      apply handleText_last
      intro q hq
      apply h
      · rw [hlast]
        exact List.mem_append_left _ hq
      · rw [hlast]
        exact List.mem_append_right _ (List.mem_singleton_self p)

end

/-- Every text of a conversation has one meaning just when between two texts only prompts of one
kind are shown. -/
theorem one_meaning_iff (lower : String → String) (updates : List Update) :
    OneMeaning lower updates ↔ Unmixed updates := by
  constructor
  · intro h before text after hsplit
    exact meaning_iff.mp (h before text after hsplit)
  · intro h before text after hsplit
    exact meaning_iff.mpr (h before text after hsplit)

/-- The support menu, opened while a device waits for its name. -/
def mixed : List Update := [.callback "device:new:4",.callback "menu:support"]

theorem not_one_meaning : ¬∃ lower : String → String,∀ updates,OneMeaning lower updates := by
  rintro ⟨lower,h⟩
  have hcalls : calls lower mixed "help"=[.createDevice "help" (some 4) "wireguard",
      .createSupportTicket "help" "help"] := by rfl
  rcases h (mixed++[.text "help"]) mixed "help" [] rfl with hnone|⟨p,_,hone⟩
  · rw [hcalls] at hnone
    cases hnone
  · rw [hcalls] at hone
    have hlength := congrArg List.length hone
    cases hlength

end VpnService.Bot
