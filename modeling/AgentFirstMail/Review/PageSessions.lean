import AgentFirstMail.Review.PageFrames

namespace AgentFirstMail
open Effect TreeCommand

/-- What the server keeps after a save; a save that is not of its review leaves it. -/
def ReviewContents.recordSaved (host : PageHost) (surface : ReviewSurface)
    (contents : ReviewContents) (saved : SavedEdit) : ReviewContents :=
  (applySavedEditToModel host surface contents saved).toOption.getD contents

/-- An open page: what its own last load or refresh showed, with the saves of the session since.
An item is undisturbed while nothing but the session changed its documents, and overtaken when a
later load put other documents of it before the server. -/
structure ReviewPage where
  shown : ReviewContents
  undisturbed : String → Prop
  overtaken : String → Prop

/-- One review session with the workspace that it is about. A save is written to the workspace
first and recorded in the server's model then; `reading` is what a page shows that is rendered
now. -/
structure ReviewSession where
  tree : WorkspaceTree
  model : ReviewContents
  unrecorded : Option SavedEdit := none
  kept : String → Prop := fun _ => True
  reading : ReviewPage
  pages : Nat → Option ReviewPage := fun _ => none

/-- Messages are read from their canonical files, wherever a review is of messages. -/
def ReviewSurface.Readable (surface : ReviewSurface) (tree : WorkspaceTree) : Prop :=
  surface = .triage → ∀ messageId ∈ tree.projections, tree.hasEvidence messageId = true

/-- The documents of an item and the suggestions for it are as they were. -/
structure SameItem (host : PageHost) (surface : ReviewSurface) (tree tree' : WorkspaceTree)
    (messageId : String) : Prop where
  item : currentItem host tree' surface messageId = currentItem host tree surface messageId
  proposal : surface = .triage → currentMessageAgentSuggestion host tree' messageId =
    currentMessageAgentSuggestion host tree messageId

namespace ReviewPage
variable (host : PageHost) (surface : ReviewSurface) (page : ReviewPage)

def disturbed (tree tree' : WorkspaceTree) : ReviewPage :=
  { page with
    undisturbed := fun messageId =>
      page.undisturbed messageId ∧ SameItem host surface tree tree' messageId }

/-- A page when the server reads a model that will be `upcoming`. -/
def met (tree : WorkspaceTree) (upcoming : ReviewContents) : ReviewPage :=
  { page with
    undisturbed := fun messageId => page.undisturbed messageId ∧ surface.Readable tree
    overtaken := fun messageId => page.shown.item? messageId ≠ upcoming.item? messageId }

def saved (edit : SavedEdit) : ReviewPage :=
  { page with shown := page.shown.recordSaved host surface edit }

end ReviewPage

namespace ReviewSession
variable (host : PageHost) (surface : ReviewSurface) (session : ReviewSession)

def started (tree : WorkspaceTree) (model : ReviewContents) : ReviewSession where
  tree
  model
  reading :=
    { shown := model, undisturbed := fun _ => surface.Readable tree, overtaken := fun _ => False }

/-- The model with the save that is not recorded yet. -/
def upcoming : ReviewContents :=
  match session.unrecorded with
  | none => session.model
  | some saved => session.model.recordSaved host surface saved

def mapPages (change : ReviewPage → ReviewPage) : ReviewSession :=
  { session with
    reading := change session.reading
    pages := fun page => (session.pages page).map change }

/-- Another command, or a save that did not succeed. -/
def disturbed (tree' : WorkspaceTree) : ReviewSession :=
  { session.mapPages (·.disturbed host surface session.tree tree') with
    tree := tree'
    kept := fun messageId =>
      session.kept messageId ∧ SameItem host surface session.tree tree' messageId }

/-- The model that all pages share, replaced by what a load or a refresh read. -/
def read (contents : ReviewContents) : ReviewSession :=
  { session with
    model := contents
    reading := { session.reading with
      shown := contents
      undisturbed := fun messageId => session.unrecorded = none ∨ session.kept messageId } }

def refreshed (contents : ReviewContents) : ReviewSession :=
  let session := session.read contents
  session.mapPages (·.met surface session.tree (session.upcoming host surface))

def rendered (page : Nat) : ReviewSession :=
  { session with pages := fun other => if other = page then some session.reading
                                       else session.pages other }

def closed (page : Nat) : ReviewSession :=
  { session with pages := fun other => if other = page then none else session.pages other }

def saved (tree' : WorkspaceTree) (edit : SavedEdit) : ReviewSession :=
  { session.mapPages (·.saved host surface edit) with
    tree := tree'
    unrecorded := some edit
    kept := fun _ => True }

def recorded (edit : SavedEdit) : ReviewSession :=
  { session with model := session.model.recordSaved host surface edit, unrecorded := none }

/-- In triage a settled message is part of the documents of the messages it is related to. -/
def settled (tree' : WorkspaceTree) : ReviewSession :=
  match surface with
  | .triage => session.disturbed host .triage tree'
  | _ => { session with tree := tree' }

end ReviewSession

/-- The steps of a session: loads read the model again at any time, saves and settlements wait
for each other. -/
inductive ReviewStep (host : PageHost) (surface : ReviewSurface) :
    ReviewSession → ReviewSession → Prop
  | command {session : ReviewSession} (tree' : WorkspaceTree) :
      ReviewStep host surface session (session.disturbed host surface tree')
  | refresh {session : ReviewSession} {contents : ReviewContents} :
      refreshedReviewRenderDocument host session.tree surface session.model = .ok contents →
      ReviewStep host surface session (session.refreshed host surface contents)
  | render {session : ReviewSession} (page : Nat) :
      ReviewStep host surface session (session.rendered page)
  | close {session : ReviewSession} (page : Nat) :
      ReviewStep host surface session (session.closed page)
  | saveNotes {session : ReviewSession} {edit : NotesEdit} {events : List TreeEvent}
      {saved : SavedEdit} {tree' : WorkspaceTree} : session.unrecorded = none →
      Exec (saveNotes host surface edit) session.tree events (.returned (.ok saved)) tree' →
      ReviewStep host surface session (session.saved host surface tree' saved)
  | saveDraft {session : ReviewSession} {edit : DraftEdit} {events : List TreeEvent}
      {saved : SavedEdit} {tree' : WorkspaceTree} : session.unrecorded = none →
      Exec (saveDraft host surface session.model edit) session.tree events
        (.returned (.ok saved)) tree' →
      ReviewStep host surface session (session.saved host surface tree' saved)
  | record {session : ReviewSession} {saved : SavedEdit} : session.unrecorded = some saved →
      ReviewStep host surface session (session.recorded host surface saved)
  | settle {session : ReviewSession} {fields : SettleFields} {events : List TreeEvent}
      {outcome : Outcome AppError Unit} {tree' : WorkspaceTree} : session.unrecorded = none →
      Exec (settleFromFields host surface session.model fields) session.tree events outcome
        tree' →
      ReviewStep host surface session (session.settled host surface tree')

/-- The sessions that a review reaches. -/
inductive Reviews (host : PageHost) (surface : ReviewSurface) : ReviewSession → Prop
  | start {tree : WorkspaceTree} {model : ReviewContents} : Built host tree surface model →
      Reviews host surface (.started surface tree model)
  | step {session session' : ReviewSession} : Reviews host surface session →
      ReviewStep host surface session session' → Reviews host surface session'

end AgentFirstMail
