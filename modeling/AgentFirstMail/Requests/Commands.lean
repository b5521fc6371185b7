import AgentFirstMail.Data.Json

namespace AgentFirstMail

inductive MessageSuggestionAction
  | caseCreate (name group : String)
  | caseAdd (caseRef : String)
  | notificationCreate (name summary : String)
  | notificationAdd (notificationRef summary : String)
  | spam
  | trash

structure TriageSuggestionSetArgs where
  messageId : String
  messageReviewBaseHash : String
  reason : String
  confidencePercent : Option UInt8
  action : MessageSuggestionAction

inductive TriageSuggestionAction
  | set (args : TriageSuggestionSetArgs)
  | clear (messageId agentSuggestionUid : String)

inductive TriageAction
  | list (limit : Option Nat) (details : Bool)
  | suggestion (action : TriageSuggestionAction)
  | review (messageId : List String)

inductive MessageAction
  | show_ (messageId : String)
  | list (sender subjectContains since : Option String) (scope : String)
  | spam (messageId : List String) (reason : Option String)
  | trash (messageId : List String) (reason : Option String)
  | unspam (messageId : List String) (reason : Option String)
  | untrash (messageId : List String) (reason : Option String)
  | attachmentFetch (messageId : String) (partId : Option String)

inductive CaseSuggestionActionKind
  | archive
  | unarchive (group : String)
  | move (group : String)
  | rename (name : String)
  | tag (tag : String)
  | untag (tag : String)
  | trash
  | delete (allowNotes : Bool)

structure CaseSuggestionSetArgs where
  caseRef : String
  caseReviewBaseHash : String
  reason : String
  confidencePercent : Option UInt8
  action : CaseSuggestionActionKind

inductive CaseSuggestionAction
  | set (args : CaseSuggestionSetArgs)
  | clear (caseRef agentSuggestionUid : String)

structure CaseCreateArgs where
  name : String
  group : Option String
  message : Option String
  summary : Option String
  reason : Option String

inductive CaseNotesAction
  | show_ (caseRef : String)
  | append (caseRef text : String)
  | replace (caseRef text : String)

inductive CaseDraftAction
  | new (caseRef : String) (to_ cc bcc : List String) (subject : String)
      (identity body bodyFile : Option String)
  | reply (caseRef messageId : String) (bcc : List String) (identity body bodyFile : Option String)
      (all : Bool)
  | change (caseRef draftName : String) (subject : Option String) (to_ cc : List String)
      (clearCc : Bool) (bcc : List String) (clearBcc : Bool)
      (identity body bodyFile : Option String)
  | show_ (caseRef draftName : String)
  | review (caseRef draftName : String)
  | validate (caseRef draftName : String)
  | list (caseRef : String)
  | upload (caseRef draftName : String)
  | send (caseRef draftName : String)
  | attach (caseRef draftName path : String)
  | remove (caseRef draftName : String) (reason : Option String)

inductive CaseCommand
  | create (args : CaseCreateArgs)
  | list (archived all : Bool)
  | show_ (caseRef : String)
  | review (caseRef : String)
  | suggestion (action : CaseSuggestionAction)
  | add (caseRef : String) (messageId : List String) (summary reason : Option String)
  | setSummary (caseRef messageId summary : String) (reason : Option String)
  | remove (caseRef messageId : String) (reason : Option String)
  | move (caseRef group : String) (reason : Option String)
  | rename (caseRef name : String) (reason : Option String)
  | notes (action : CaseNotesAction)
  | archive (caseRef : String) (reason : Option String)
  | unarchive (caseRef group : String) (reason : Option String)
  | trash (caseRef : String) (reason : Option String)
  | delete (caseRef : String) (allowNotes : Bool) (reason : Option String)
  | tag (caseRef tag : String) (reason : Option String)
  | untag (caseRef tag : String) (reason : Option String)
  | draft (action : CaseDraftAction)
  | merge (caseRef otherCaseRef : String) (reason : Option String)

structure ContactCreateArgs where
  name : String
  group : Option String
  emails : List String
  phones : List String
  org : Option String
  role : Option String
  tags : List String
  reason : Option String

inductive ContactEmailAction
  | add (contactRef email : String) (reason : Option String)
  | remove (contactRef email : String) (reason : Option String)

inductive ContactPhoneAction
  | add (contactRef phone : String) (reason : Option String)
  | remove (contactRef phone : String) (reason : Option String)

inductive ContactNotesAction
  | show_ (contactRef : String)
  | append (contactRef text : String)
  | replace (contactRef text : String)

inductive ContactCommand
  | create (args : ContactCreateArgs)
  | list (group tag org role : Option String)
  | show_ (contactRef : String)
  | move (contactRef group : String) (reason : Option String)
  | rename (contactRef name : String) (reason : Option String)
  | email (action : ContactEmailAction)
  | phone (action : ContactPhoneAction)
  | tag (contactRef tag : String) (reason : Option String)
  | untag (contactRef tag : String) (reason : Option String)
  | notes (action : ContactNotesAction)
  | delete (contactRef : String) (allowNotes : Bool) (reason : Option String)
  | extract (fromTriage : Bool) (fromCase : Option String) (all : Bool) (group : Option String)

inductive NotificationSuggestionActionKind
  | rename (name : String)
  | delete (allowNotes : Bool)

structure NotificationSuggestionSetArgs where
  notificationRef : String
  notificationReviewBaseHash : String
  reason : String
  confidencePercent : Option UInt8
  action : NotificationSuggestionActionKind

inductive NotificationSuggestionAction
  | set (args : NotificationSuggestionSetArgs)
  | clear (notificationRef agentSuggestionUid : String)

structure NotificationCreateArgs where
  name : String
  message : Option String
  summary : Option String
  reason : Option String

inductive NotificationNotesAction
  | show_ (notificationRef : String)
  | append (notificationRef text : String)
  | replace (notificationRef text : String)

inductive NotificationCommand
  | create (args : NotificationCreateArgs)
  | add (notificationRef : String) (messageId : List String) (summary : String)
      (reason : Option String)
  | list
  | show_ (notificationRef : String)
  | review (notificationRef : String)
  | suggestion (action : NotificationSuggestionAction)
  | remove (notificationRef messageId : String) (reason : Option String)
  | move (notificationRef messageId newNotificationRef : String) (reason : Option String)
  | rename (notificationRef name : String) (reason : Option String)
  | delete (notificationRef : String) (allowNotes : Bool) (reason : Option String)
  | setSummary (notificationRef messageId summary : String) (reason : Option String)
  | notes (action : NotificationNotesAction)

/-- A command with its arguments, where a request id can make a difference. -/
inductive CliCommand
  | api
  | demo
  | init
  | cloudflareScaffold
  | cloudflareConsume
  | cloudflareWatch
  | pull
  | config
  | remote
  | push
  | status
  | doctor
  | purge
  | skill
  | triage (action : TriageAction)
  | message (action : MessageAction)
  | case_ (action : CaseCommand)
  | contact (action : ContactCommand)
  | notification (action : NotificationCommand)
  | render
  | log

def TriageAction.requestIdSupported : TriageAction → Bool
  | .suggestion _ => true
  | _ => false

def MessageAction.requestIdSupported : MessageAction → Bool
  | .spam messageId _ | .trash messageId _ | .unspam messageId _ | .untrash messageId _ =>
    messageId.length == 1
  | _ => false

def CaseCommand.requestIdSupported : CaseCommand → Bool
  | .create _ => true
  | .suggestion _ => true
  | .add _ messageId _ _ => messageId.length == 1
  | .move .. | .rename .. | .setSummary .. | .remove .. | .delete .. | .archive ..
  | .unarchive .. | .trash .. | .tag .. | .untag .. => true
  | .notes (.append ..) | .notes (.replace ..) => true
  | .draft (.new ..) | .draft (.reply ..) | .draft (.change ..) | .draft (.validate ..)
  | .draft (.upload ..) | .draft (.send ..) | .draft (.attach ..) | .draft (.remove ..) => true
  | _ => false

def ContactCommand.requestIdSupported : ContactCommand → Bool
  | .create _ | .move .. | .rename .. | .email _ | .phone _ | .tag .. | .untag .. | .delete ..
  | .notes (.append ..) | .notes (.replace ..) => true
  | _ => false

def NotificationCommand.requestIdSupported : NotificationCommand → Bool
  | .create _ => true
  | .suggestion _ => true
  | .add _ messageId _ _ => messageId.length == 1
  | .remove .. | .move .. | .rename .. | .setSummary .. | .delete .. => true
  | .notes (.append ..) | .notes (.replace ..) => true
  | _ => false

/-- The commands that may be given a request id. -/
def requestIdSupported : CliCommand → Bool
  | .triage action => action.requestIdSupported
  | .message action => action.requestIdSupported
  | .case_ action => action.requestIdSupported
  | .contact action => action.requestIdSupported
  | .notification action => action.requestIdSupported
  | _ => false

end AgentFirstMail
