import AgentFirstMail.Channels.Files
import AgentFirstMail.Cloudflare.Pull

namespace AgentFirstMail
open Effect

/-- The sources a workspace is configured with. -/
structure PullSources where
  config : MailConfig
  imapHost : Option String := none
  allowUnboundedBodyFetch : Bool := false
  cloudflare : CloudflareSection := {}
  files : List FileSource := []

/-- What a pull is asked for: ids of mailboxes, and sources by name. -/
structure PullSelection where
  ids : List String := []
  cloudflare : Bool := false
  files : Bool := false

def CloudflareSection.isConfigured (source : CloudflareSection) : Bool :=
  source.r2.bucket.any fun bucket => !Text.isBlank bucket

def historyWithoutImap : AppError :=
  { errorCode := "invalid_request"
    message := "--cloudflare/--files cannot be combined with --since-days or --all-history" }

def noSourceConfigured : AppError :=
  { errorCode := "config_missing"
    message := "configure IMAP (imap.host, imap.username, imap.password_secret), Cloudflare " ++
      "(cloudflare.account_id, cloudflare.r2.bucket, cloudflare.r2.access_key_id, " ++
      "cloudflare.r2.secret_access_key_secret), or files.sources" }

def noFileSource : AppError :=
  { errorCode := "config_missing"
    message := "configure files.sources before pulling file messages" }

def imapHostMissing : AppError :=
  { errorCode := "config_missing", message := "imap.host is required" }

namespace PullSelection
variable (selection : PullSelection) (sources : PullSources)

def default : Bool := selection.ids.isEmpty && !selection.cloudflare && !selection.files

def pullsImap : Bool :=
  !selection.ids.isEmpty || (selection.default && sources.imapHost.isSome)

def pullsCloudflare : Bool :=
  selection.cloudflare || (selection.default && sources.cloudflare.isConfigured)

def pullsFiles : Bool := selection.files || (selection.default && !sources.files.isEmpty)

/-- What is refused before any source performs work. -/
def validate (options : PullOptions) : Result Unit := do
  ensure (!((selection.cloudflare || selection.files) &&
    (options.sinceDays.isSome || options.allHistory))) historyWithoutImap
  if selection.pullsImap sources then
    let _ ← sources.config.selectedPullIds selection.ids
  ensure (selection.pullsImap sources || selection.pullsCloudflare sources ||
    selection.pullsFiles sources) noSourceConfigured
  ensure (!(selection.files && sources.files.isEmpty)) noFileSource

end PullSelection

/-- Pulls from a source that is selected, out of what the sources before it have left. -/
def pullFrom (selected : Bool) (options : PullOptions) (pull : PullOptions → Pull Unit) :
    Pull Unit := do
  if selected then
    let remaining ← Pull.remaining options
    pull remaining
  else return ()

def pullImapSource (host : PullHost) (sources : PullSources) (selection : PullSelection)
    (options : PullOptions) : Pull Unit := do
  Program.ofExcept (ensure sources.imapHost.isSome imapHostMissing)
  let _ ← pullWithProgress host sources.config sources.allowUnboundedBodyFetch selection.ids options
  return ()

def pullCloudflareSource (host : PullHost) (sources : PullSources) (pages : PageLimit)
    (options : PullOptions) : Pull Unit := do
  let _ ← pullObjects host sources.cloudflare options pages none
  return ()

def pullFileSources (host : PullHost) (channel : ChannelHost) (sources : PullSources)
    (options : PullOptions) : Pull Unit := do
  let _ ← pullFiles host channel sources.files options
  return ()

/-- One pull over all selected sources; what is returned is what the sources leave. -/
def pullSources (host : PullHost) (channel : ChannelHost) (sources : PullSources)
    (pages : PageLimit) (selection : PullSelection) (options : PullOptions) : Pull PullOptions := do
  Program.ofExcept (selection.validate sources options)
  Pull.setBudget options
  pullFrom (selection.pullsImap sources) options (pullImapSource host sources selection)
  pullFrom (selection.pullsCloudflare sources) options (pullCloudflareSource host sources pages)
  pullFrom (selection.pullsFiles sources) options (pullFileSources host channel sources)
  Pull.remaining options

end AgentFirstMail
