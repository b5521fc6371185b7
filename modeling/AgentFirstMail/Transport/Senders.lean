import AgentFirstMail.PushQueue.Execute
import AgentFirstMail.Transport.Imap

namespace AgentFirstMail
open Effect Wire

section Smtp
variable (host : Host) (buildTransport : SmtpSection → Result Unit)

/-- Everything a send needs before anything can leave the machine; the transport library builds
the connection settings. -/
def smtpPrepareSend (envelopeFrom : String) (envelopeTo : List String) : Result Unit := do
  host.requireSmtp
  buildTransport host.smtp
  ensure (host.validAddress envelopeFrom) (smtpSendFailed "invalid envelope from")
  envelopeTo.forM fun address =>
    ensure (host.validAddress address) (smtpSendFailed "invalid envelope recipient")
  ensure (!envelopeTo.isEmpty) (smtpSendFailed "missing destination address, invalid envelope")

/-- Tags an error beside what its details say. -/
def AppError.beforeCalls (error : AppError) : AppError :=
  error.withDetails { error.details.getD {} with remoteCallsStarted := some false }

def SmtpFailure.rejected (failure : SmtpFailure) : Bool :=
  failure.kind == .permanent || failure.kind == .transient

def smtpSendRawMessage (envelopeFrom : String) (envelopeTo : List String) (raw : Bytes) :
    Wire Unit :=
  match smtpPrepareSend host buildTransport envelopeFrom envelopeTo with
  | .error error => Program.fail error.beforeCalls
  | .ok () => do
    let served ← call (.sendRaw envelopeFrom envelopeTo raw)
    match served.reply with
    | .ok () => return ()
    | .error failure =>
      Program.fail { smtpSendFailed failure.text with
        details := if failure.rejected then some effectRejected else none }

end Smtp
section Cloudflare

/-- The account to send from and what resolving its token came to. -/
structure CloudflareSending where
  accountId : Option String
  apiToken : Result String

/-- How the recipients of a receipt are compared. -/
structure CloudflareHost extends Host where
  cloudflare : CloudflareSending
  recipientKey : String → String

def maxSendBytes : Nat := 5 * 1024 * 1024

def localError (code message : String) : AppError :=
  { errorCode := code, message, details := some callsNotStarted }

def isHexDigit (c : Char) : Bool :=
  c.isDigit || ('a' ≤ c && c ≤ 'f') || ('A' ≤ c && c ≤ 'F')

def isGraphic (c : Char) : Bool := '!' ≤ c && c ≤ '~'

/-- The endpoint to submit to. -/
def senderNew (sending : CloudflareSending) : Result String := do
  let accountId ← match sending.accountId with
    | some accountId => .ok accountId
    | none => .error (localError "config_missing" "cloudflare.account_id is required for sending")
  ensure (accountId.length == 32 && accountId.toList.all isHexDigit) (localError "config_invalid"
    "cloudflare.account_id must contain 32 hexadecimal characters for sending")
  let token ← match sending.apiToken with
    | .ok token => .ok token
    | .error error => .error (error.withDetails callsNotStarted)
  ensure (!token.isEmpty && token.toList.all isGraphic) (localError "config_invalid"
    "cloudflare.sending.api_token_secret must be a nonempty API token")
  return ("https://api.cloudflare.com/client/v4/accounts/" ++ accountId ++
    "/email/sending/send_raw")

def requestBody (host : CloudflareHost) (prepared : PreparedOutbound) : Result RawSubmission := do
  let email ← prepared.email
  ensure (email.deliveryRaw.length ≤ maxSendBytes)
    (localError "message_too_large" "Cloudflare sending limit is 5 MiB")
  ensure (!email.envelopeTo.isEmpty && email.envelopeTo.length ≤ 50) (localError "draft_invalid"
    "Cloudflare sending requires between 1 and 50 envelope recipients")
  (email.envelopeFrom :: email.envelopeTo).forM fun address =>
    ensure (host.validAddress address)
      (localError "draft_invalid" "invalid Cloudflare envelope address")
  match String.fromUTF8? ⟨email.deliveryRaw.toArray⟩ with
  | some raw =>
    return { sender := email.envelopeFrom, recipients := email.envelopeTo, mimeMessage := raw }
  | none => .error (localError "draft_invalid" "Cloudflare raw MIME must be valid UTF-8")

def outcomeNotEstablished : AppError :=
  { errorCode := "cloudflare_send_failed"
    message := "Cloudflare email submission outcome could not be established"
    details := some {} }

def submissionRejected : AppError :=
  { errorCode := "cloudflare_send_rejected"
    message := "Cloudflare rejected the email submission"
    details := some effectRejected }

def rejectionStatuses : List Nat := [400, 401, 403, 404, 413, 422, 429]

def SendReceipt.reported (receipt : SendReceipt) : List String :=
  receipt.delivered ++ receipt.queued ++ receipt.permanentBounces ++ receipt.suppressedRecipients

/-- A receipt names every recipient once and no one else. -/
def SendReceipt.covers (recipientKey : String → String) (receipt : SendReceipt)
    (envelopeTo : List String) : Bool :=
  let reported := receipt.reported.map recipientKey
  let expected := envelopeTo.map recipientKey
  reported.Nodup && !Text.isBlank receipt.messageId && reported.all (expected.contains ·) &&
    expected.all (reported.contains ·)

/-- What a response says of a submission. -/
def judgeResponse (host : CloudflareHost) (prepared : PreparedOutbound) :
    PostReply → Result SendReceipt
  | .failed | .unreadable _ | .body _ none => .error outcomeNotEstablished
  | .body status (some api) =>
    if !api.success && api.result.isNone && rejectionStatuses.contains status then
      .error submissionRejected
    else if !(200 ≤ status && status < 300) || !api.success then .error outcomeNotEstablished
    else match api.result with
      | none => .error outcomeNotEstablished
      | some receipt => do
        let email ← prepared.email
        ensure (receipt.covers host.recipientKey email.envelopeTo) outcomeNotEstablished
        return receipt

def cloudflareSendRawMessage (host : CloudflareHost) (prepared : PreparedOutbound) :
    Wire SendReceipt := do
  let endpoint ← Program.ofExcept (senderNew host.cloudflare)
  let submission ← Program.ofExcept (requestBody host prepared)
  let served ← call (.post endpoint submission)
  match served.reply with
  | .ok reply => Program.ofExcept (judgeResponse host prepared reply)

end Cloudflare
end AgentFirstMail
