import VpnService.Backend.Session

namespace VpnService.Backend

/-- `SupportTicket.messages`, ordered by `created_at`. -/
def Database.messagesOf (db : Database) (ticketId : Id) : List SupportMessage :=
  (db.supportMessages.rows.filter fun m => m.ticketId=ticketId).mergeSort
    fun a b => a.createdAt≤b.createdAt

/-- `SupportTicketRepository.list_for_user`, the newest first. -/
def Database.ticketsOf (db : Database) (userId : Id) : List SupportTicket :=
  (db.supportTickets.rows.filter fun t => t.userId=userId).reverse

def openTicket (ticket : SupportTicket) (message : SupportMessage) (db : Database) : Database :=
  {db with
    supportTickets := db.supportTickets.insert ticket
    supportMessages := db.supportMessages.insert message}

/-- The ticket and its first message; `support_tickets.subject` holds 255 characters. -/
def createTicket (userId : Id) (subject message : String) : Req SupportTicket := do
  let now ← getNow
  let id ← nextSerial
  let messageId ← nextSerial
  let ticket : SupportTicket := ⟨id,userId,subject,.opened⟩
  flush
  Eff.require (subject.length≤255) (internalError "StringDataRightTruncationError")
  alter (openTicket ticket ⟨messageId,id,.user,message,now⟩)
  pure ticket

def getTicket (ticketId : Id) : Req SupportTicket := do
  let db ← getDb
  Eff.orRaise ⟨.notFound,"ticket_not_found","Support ticket not found"⟩
    (db.supportTickets.get? ticketId)

def setTicketStatus (ticketId : Id) (status : SupportTicketStatus) : Req Unit :=
  alter fun db => {db with
    supportTickets := db.supportTickets.modify ticketId
      (fun t => {t with status := status}) fun _ => rfl}

/-- An answer of the staff makes an open ticket a pending one. -/
def addMessage (ticket : SupportTicket) (sender : SupportSender) (text : String) :
    Req SupportMessage := do
  let now ← getNow
  let id ← nextSerial
  let message : SupportMessage := ⟨id,ticket.id,sender,text,now⟩
  if sender=.admin ∧ ticket.status=.opened then setTicketStatus ticket.id .pending
  alter fun db => {db with supportMessages := db.supportMessages.insert message}
  flush
  pure message

end VpnService.Backend
