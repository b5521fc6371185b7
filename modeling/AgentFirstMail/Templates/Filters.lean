import AgentFirstMail.Data.Trims
import AgentFirstMail.Drafts.Content

namespace AgentFirstMail
open Lines Text

def withoutLineBreaks (value : List Char) : List Char :=
  value.map fun c => if c = '\r' ∨ c = '\n' then ' ' else c

def templateMarkdownCodeFilter (value : List Char) : List Char :=
  (trim (withoutLineBreaks value)).map fun c => if c = '`' then '\'' else c

/-- The longest run of backticks so far, and the one that goes on. -/
structure FenceScan where
  maxRun : Nat := 0
  current : Nat := 0

def FenceScan.step (scan : FenceScan) (c : Char) : FenceScan :=
  if c = '`' then
    { maxRun := max scan.maxRun (scan.current + 1), current := scan.current + 1 }
  else { scan with current := 0 }

def templateMarkdownFenceFilter (value : List Char) : List Char :=
  List.replicate (max (value.foldl FenceScan.step {}).maxRun 2 + 1) '`'

def escapePipe (c : Char) : List Char := if c = '|' then ['\\', '|'] else [c]

def templateMarkdownTableFilter (value : List Char) : List Char :=
  trim ((withoutLineBreaks value).flatMap escapePipe)

def quoteLine (line : List Char) : List Char := if line = [] then ['>'] else '>' :: ' ' :: line

def templateMarkdownQuoteFilter (value : List Char) : List Char :=
  List.intercalate ['\n'] (((splitInclusive '\n' value).map linesItem).map quoteLine)

def yamlEscape (c : Char) : List Char :=
  match c with
  | '\\' => ['\\', '\\']
  | '"' => ['\\', '"']
  | '\n' => ['\\', 'n']
  | '\r' => ['\\', 'r']
  | '\t' => ['\\', 't']
  | c => if isControl c then [' '] else [c]

def templateYamlFilter (value : List Char) : List Char := '"' :: value.flatMap yamlEscape ++ ['"']

/-- The lines of a text in Markdown: a line ends in a line feed, a carriage return, or both. -/
def markdownLines : List Char → List (List Char)
  | [] => []
  | '\r' :: '\n' :: rest => [] :: markdownLines rest
  | c :: rest =>
    if c = '\n' ∨ c = '\r' then [] :: markdownLines rest
    else match markdownLines rest with
      | [] => [[c]]
      | line :: lines => (c :: line) :: lines

/-- Whether a table row is cut: by a pipe that no backslash escapes, where a backslash may itself
be escaped. -/
def hasBorder : List Char → Bool
  | [] => false
  | '\\' :: rest => match rest with
    | [] => false
    | _ :: rest => hasBorder rest
  | c :: rest => c == '|' || hasBorder rest

/-- What a backslash and a character stand for in a quoted scalar. -/
def yamlUnescape : Char → Option Char
  | '\\' => some '\\'
  | '"' => some '"'
  | '/' => some '/'
  | 'n' => some '\n'
  | 'r' => some '\r'
  | 't' => some '\t'
  | '\t' => some '\t'
  | ' ' => some ' '
  | '0' => some '\x00'
  | 'a' => some '\x07'
  | 'b' => some '\x08'
  | 'v' => some '\x0b'
  | 'f' => some '\x0c'
  | 'e' => some '\x1b'
  | _ => none

/-- The content of a scalar in one line up to its closing quote, behind which nothing stands. -/
def yamlContent : List Char → Option (List Char)
  | [] => none
  | '"' :: rest => if rest = [] then some [] else none
  | '\\' :: rest => match rest with
    | [] => none
    | c :: rest => do
      let unescaped ← yamlUnescape c
      let content ← yamlContent rest
      return unescaped :: content
  | c :: rest => if c = '\t' ∨ 0x20 ≤ c.toNat then (c :: ·) <$> yamlContent rest else none

/-- What a text decodes to if it is one double-quoted scalar in one line. -/
def yamlScalar : List Char → Option (List Char)
  | '"' :: rest => yamlContent rest
  | _ => none

end AgentFirstMail
