import AgentFirstMail.Config.Actions

namespace AgentFirstMail

def ActionStep.moveTo (id : String) : ActionStep := { moveToMailboxId := some id }

def ActionStep.appendTo (id : String) : ActionStep := { appendToMailboxId := some id }

def ActionStep.smtp : ActionStep := { smtpSend := some [] }

def defaultMailboxConfigs : Std.ExtTreeMap String ImapMailboxConfig :=
  let special := ImapMailboxConfig.specialUse
  .ofList [("inbox", ImapMailboxConfig.named "INBOX"), ("sent", special .sent),
    ("archive", special .archive), ("junk", special .junk), ("trash", special .trash),
    ("drafts", special .drafts)]

def defaultDraftSendSteps : List ActionStep :=
  [.appendTo "drafts", .smtp, .appendTo "sent",
    { addFlags := ["\\Seen", "\\Answered"], on := some .replyToMessage }]

def PullActionSection.default : PullActionSection where
  defaultMailboxIds := ["inbox", "sent", "archive", "junk", "trash"]
  byMailboxId := .ofList [("inbox", PullMailboxAction.mk .triage .inbound),
    ("sent", ⟨.triage, .outbound⟩), ("archive", ⟨.triage, .inbound⟩),
    ("junk", ⟨.spam, .inbound⟩), ("trash", ⟨.trashed, .inbound⟩), ("drafts", ⟨.triage, .outbound⟩)]

def ActionsSection.default : ActionsSection where
  pull := .default
  draftSave := [.appendTo "drafts"]
  draftSend := defaultDraftSendSteps
  messageSpam := [{ addFlags := ["\\Seen", "$Junk"] }, .moveTo "junk"]
  messageTrash := [.moveTo "trash"]
  messageUnspam := [.moveTo "inbox"]
  messageUntrash := [.moveTo "inbox"]
  notificationBySourceMailboxId := .ofList [("inbox", [ActionStep.moveTo "archive"]), ("sent", []),
    ("archive", []), ("junk", []), ("trash", []), ("drafts", [])]

def MailConfig.default : MailConfig where
  mailboxes := defaultMailboxConfigs
  actions := .default

theorem MailConfig.default_validate : MailConfig.default.validate = .ok () := by
  decide

end AgentFirstMail
