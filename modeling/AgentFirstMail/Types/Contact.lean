import AgentFirstMail.Error

namespace AgentFirstMail

structure ContactFrontmatter where
  contactUid : String
  displayName : String
  emails : List String := []
  phones : List String := []
  organization : String := ""
  role : String := ""
  tags : List String := []
  createdRfc3339 : String
  updatedRfc3339 : String
deriving DecidableEq

/-- What a contact file reads as: its front matter and notes, or why it does not parse. -/
inductive ContactContent where
  | parsed (frontmatter : ContactFrontmatter) (notes : String)
  | invalid (message : String)
deriving DecidableEq

/-- A Markdown file of the contact tree: the directory of its group, its name without the
extension, and its content. -/
structure ContactFile where
  group : String
  stem : String
  content : ContactContent
deriving DecidableEq

namespace ContactFile

def liesAt (file : ContactFile) (group stem : String) : Bool :=
  file.group == group && file.stem == stem

def path (file : ContactFile) : String := s!"contacts/{file.group}/{file.stem}.md"

end ContactFile

/-- The fields of a contact to create. -/
structure NewContact where
  name : String
  group : Option String := none
  emails : List String := []
  phones : List String := []
  org : Option String := none
  role : Option String := none
  tags : List String := []
  reason : Option String := none

end AgentFirstMail
