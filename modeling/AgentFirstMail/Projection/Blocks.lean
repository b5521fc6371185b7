import Mathlib.Data.List.Chain
import AgentFirstMail.Outbound.Message

/-! The reading copy of a mail body, laid out as blocks. -/

namespace AgentFirstMail.Markdown
open Text

/-! ### Link targets -/

/-- What the libraries know about domains: the ASCII form of a host, and the part of one
that is registered. -/
structure DomainLibrary where
  domainToAscii : List Char → Option (List Char)
  domainStr : List Char → Option (List Char)

def stripPrefix (start : String) (text : List Char) : Option (List Char) :=
  if start.toList.isPrefixOf text then some (text.drop start.toList.length) else none

/-- The part of a URL that stands before some characters. -/
def before (stops : List Char) (text : List Char) : List Char := text.takeWhile (· ∉ stops)

def trimEndDots (text : List Char) : List Char := text.rdropWhile (· = '.')

def withoutPort (authority : List Char) : List Char :=
  match rsplitOnce ':' authority with
  | some (host, port) => if !port.isEmpty && port.all Char.isDigit then host else authority
  | none => authority

/-- The host part of an `http`, `https` or `mailto` URL, lowercased, without userinfo, port or
trailing dot. -/
def urlHost (url : List Char) : Option (List Char) := do
  let lower := (trim url).map Char.toLower
  let authority ← match stripPrefix "mailto:" lower with
    | some rest => (rsplitOnce '@' (before ['?', '&'] rest)).map (·.2)
    | none => do
      let rest ← (stripPrefix "https://" lower).orElse fun _ => stripPrefix "http://" lower
      let authority := before ['/', '?', '#'] rest
      let authority := ((rsplitOnce '@' authority).map (·.2)).getD authority
      match authority with
      | '[' :: bracketed => some ('[' :: before [']'] bracketed ++ [']'])
      | _ => some (withoutPort authority)
  let host := trimEndDots authority
  if host.isEmpty then none else some host

/-- The registrable domain of a host. Hosts without a public suffix come back as they are. -/
def registrableDomain (library : DomainLibrary) (host : List Char) : Option (List Char) :=
  let host := trimEndDots (trim host)
  if host.isEmpty then none
  else if ['['].isPrefixOf host || (host.splitOn '.').all fun label => label.all Char.isDigit then
    some (host.map Char.toLower)
  else do
    let ascii := (← library.domainToAscii host).map Char.toLower
    return (library.domainStr ascii).getD ascii

def isSafeTarget (url : List Char) : Bool :=
  ["https://", "http://", "mailto:"].any fun start =>
    start.toList.isPrefixOf (url.map Char.toLower)

def safeLinkTarget (url : List Char) : Option (List Char) :=
  if isSafeTarget (trim url) then some (trim url) else none

/-! ### Blocks -/

structure MarkdownRun where
  text : List Char
  href : Option (List Char)
  emphasis : Bool
  strong : Bool
  code : Bool
  host : Option (List Char) := none
  senderDomainMatch : Option Bool := none

inductive MarkdownBlockKind where
  | paragraph | heading | listItem | quote | code | rule
deriving DecidableEq

structure MarkdownBlock where
  kind : MarkdownBlockKind
  marker : Option String
  runs : List MarkdownRun

/-- What links are compared against: the sender's registrable domain. -/
structure LinkContext where
  senderDomain : Option (List Char)

def LinkContext.forSender (library : DomainLibrary) (domain : Option (List Char)) : LinkContext where
  senderDomain := domain.bind (registrableDomain library)

def MarkdownRun.sameStyle (run other : MarkdownRun) : Bool :=
  run.href == other.href && run.emphasis == other.emphasis && run.strong == other.strong &&
    run.code == other.code

/-- Runs with another behind them; one of the last one's style goes on with it. -/
def addRun (run : MarkdownRun) : List MarkdownRun → List MarkdownRun
  | [] => [run]
  | [last] =>
    if last.sameStyle run then [{ last with text := last.text ++ run.text }] else [last, run]
  | first :: second :: rest => first :: addRun run (second :: rest)

/-- Changes the last of some items that has a property. -/
def updateLast {α : Type} (p : α → Bool) (f : α → α) : List α → List α
  | [] => []
  | item :: rest =>
    if rest.any p then item :: updateLast p f rest
    else if p item then f item :: rest
    else item :: rest

/-- What is laid out so far; the last block is still open. -/
structure Page where
  blocks : List MarkdownBlock := []
  current : Option MarkdownBlock := none

namespace Page

def closeBlock (page : Page) : Page where
  blocks := page.blocks ++
    (page.current.filter fun block => !block.runs.isEmpty || block.kind = .rule).toList
  current := none

def openBlock (quoted : Bool) (kind : MarkdownBlockKind) (marker : Option String) (page : Page) : Page :=
  { page.closeBlock with
    current := some
      { kind := if quoted ∧ kind = .paragraph then .quote else kind
        marker
        runs := [] } }

/-- Text goes on with the open block, or begins a paragraph. -/
def push (quoted : Bool) (run : MarkdownRun) (page : Page) : Page :=
  if run.text.isEmpty then page
  else
    let page := if page.current.isNone then page.openBlock quoted .paragraph none else page
    { page with
      current := page.current.map fun block => { block with runs := addRun run block.runs } }

end Page

/-- Where a link goes, and whether that is the sender's own domain. -/
def destination (library : DomainLibrary) (href : List Char) : Option (List Char) :=
  (urlHost href).bind (registrableDomain library)

def LinkContext.senderDomainMatch (context : LinkContext) (host : Option (List Char)) : Option Bool :=
  match host, context.senderDomain with
  | some host, some sender => some (host == sender)
  | _, _ => none

/-- Names the destination of a link on its last run. -/
def Page.nameLink (library : DomainLibrary) (context : LinkContext) (href : List Char)
    (page : Page) : Page :=
  let host := destination library href
  { page with
    current := page.current.map fun block =>
      { block with
        runs := updateLast (fun run => run.href == some href)
          (fun run => { run with host, senderDomainMatch := context.senderDomainMatch host }) block.runs } }

/-! ### Events -/

inductive Tag where
  | paragraph | heading | blockQuote | codeBlock
  | list (start : Option Nat)
  | item | emphasis | strong
  | link (destUrl : List Char)
  | image | table | tableHead | tableRow | tableCell | other

inductive TagEnd where
  | paragraph | heading | blockQuote | codeBlock | list | item | emphasis | strong | link | image
  | table | tableHead | tableRow | tableCell | other

inductive Event where
  | start (tag : Tag)
  | finish (tag : TagEnd)
  | text (text : List Char)
  | html (text : List Char)
  | inlineHtml (text : List Char)
  | code (text : List Char)
  | softBreak | hardBreak | rule
  | footnoteReference (text : List Char)
  | taskListMarker (checked : Bool)
  | inlineMath (text : List Char)
  | displayMath (text : List Char)

/-- One counter for each open list, the innermost first: `none` for bullets. -/
structure BlockBuilder extends Page where
  quoteDepth : Nat := 0
  lists : List (Option Nat) := []
  href : Option (List Char) := none
  linkDepth : Nat := 0
  emphasis : Nat := 0
  strong : Nat := 0
  imageDepth : Nat := 0

namespace BlockBuilder

def onPage (f : Page → Page) (builder : BlockBuilder) : BlockBuilder :=
  { builder with toPage := f builder.toPage }

def closeBlock (builder : BlockBuilder) : BlockBuilder := builder.onPage Page.closeBlock

def openBlock (kind : MarkdownBlockKind) (marker : Option String) (builder : BlockBuilder) :
    BlockBuilder :=
  builder.onPage (Page.openBlock (0 < builder.quoteDepth) kind marker)

/-- The style of the text that comes next. -/
def run (builder : BlockBuilder) (text : List Char) (code : Bool) : MarkdownRun where
  text := text
  href := builder.href
  emphasis := 0 < builder.emphasis
  strong := 0 < builder.strong
  code := code

def pushText (text : List Char) (code : Bool) (builder : BlockBuilder) : BlockBuilder :=
  builder.onPage (Page.push (0 < builder.quoteDepth) (builder.run text code))

section Links
variable (library : DomainLibrary) (context : LinkContext)

/-- Closes the link that just ended: names its destination on its last run. -/
def finishLink (builder : BlockBuilder) : BlockBuilder :=
  match builder.href with
  | none => builder
  | some href => { builder.onPage (Page.nameLink library context href) with href := none }

/-- A number goes up with every item of its list. -/
def marker (number : Option Nat) : String :=
  match number with
  | some next => s!"{next}."
  | none => "•"

def startItem (builder : BlockBuilder) : BlockBuilder :=
  { builder with
    lists := match builder.lists with
      | number :: outer => number.map (· + 1) :: outer
      | [] => [] }.openBlock .listItem (some (marker builder.lists.head?.join))

def startTag (builder : BlockBuilder) : Tag → BlockBuilder
  | .paragraph => builder.openBlock .paragraph none
  | .heading => builder.openBlock .heading none
  | .blockQuote => { builder.closeBlock with quoteDepth := builder.quoteDepth + 1 }
  | .codeBlock => builder.openBlock .code none
  | .list start => { builder.closeBlock with lists := start :: builder.lists }
  | .item => builder.startItem
  | .emphasis => { builder with emphasis := builder.emphasis + 1 }
  | .strong => { builder with strong := builder.strong + 1 }
  | .link destUrl =>
    { builder with
      linkDepth := builder.linkDepth + 1
      href := if builder.linkDepth + 1 = 1 then safeLinkTarget destUrl else builder.href }
  | .image => { builder with imageDepth := builder.imageDepth + 1 }
  | .table | .tableHead | .tableRow => builder.openBlock .paragraph none
  | .tableCell => builder.pushText [' '] false
  | .other => builder

def finishTag (builder : BlockBuilder) : TagEnd → BlockBuilder
  | .paragraph | .heading | .codeBlock | .item | .table | .tableHead | .tableRow => builder.closeBlock
  | .blockQuote => { builder.closeBlock with quoteDepth := builder.quoteDepth - 1 }
  | .list => { builder.closeBlock with lists := builder.lists.tail }
  | .emphasis => { builder with emphasis := builder.emphasis - 1 }
  | .strong => { builder with strong := builder.strong - 1 }
  | .link =>
    let builder := { builder with linkDepth := builder.linkDepth - 1 }
    if builder.linkDepth = 0 then builder.finishLink library context else builder
  | .image => { builder with imageDepth := builder.imageDepth - 1 }
  | .tableCell | .other => builder

def step (builder : BlockBuilder) : Event → BlockBuilder
  | .start tag => builder.startTag tag
  | .finish tag => builder.finishTag library context tag
  | .text text | .html text | .inlineHtml text => builder.pushText text false
  | .code text => builder.pushText text true
  | .softBreak => builder.pushText [' '] false
  | .hardBreak => builder.pushText ['\n'] false
  | .rule => (builder.openBlock .rule none).closeBlock
  | .footnoteReference text => builder.pushText text false
  | .taskListMarker checked => builder.pushText (if checked then ['☑', ' '] else ['☐', ' ']) false
  | .inlineMath text | .displayMath text => builder.pushText text false

def steps (builder : BlockBuilder) (events : List Event) : BlockBuilder :=
  events.foldl (step library context) builder

end Links
end BlockBuilder

/-- Lays a Markdown body out as blocks. -/
def markdownBlocks (library : DomainLibrary) (parser : List Char → List Event) (markdown : List Char)
    (context : LinkContext) : List MarkdownBlock :=
  (BlockBuilder.steps library context {} (parser markdown)).closeBlock.blocks

/-! ### What is laid out -/

def MarkdownRun.style (run : MarkdownRun) : Option (List Char) × Bool × Bool × Bool :=
  (run.href, run.emphasis, run.strong, run.code)

def MarkdownBlock.text (block : MarkdownBlock) : List Char := block.runs.flatMap (·.text)

def Page.text (page : Page) : List Char :=
  (page.blocks ++ page.current.toList).flatMap MarkdownBlock.text

/-- The text that an event stands for. -/
def Event.shown : Event → List Char
  | .start .tableCell | .softBreak => [' ']
  | .hardBreak => ['\n']
  | .text shown | .html shown | .inlineHtml shown | .code shown => shown
  | .footnoteReference shown | .inlineMath shown | .displayMath shown => shown
  | .taskListMarker checked => if checked then ['☑', ' '] else ['☐', ' ']
  | _ => []

section Sound
variable (library : DomainLibrary) (context : LinkContext)

/-- A run has text, links to nothing but web and mail addresses, and names no destination but
that of its link. -/
structure MarkdownRun.Sound (run : MarkdownRun) : Prop where
  shown : run.text ≠ []
  safe : ∀ href ∈ run.href, isSafeTarget href = true
  named : ∀ host ∈ run.host, ∃ href ∈ run.href, destination library href = some host
  compared : run.senderDomainMatch = context.senderDomainMatch run.host

/-- The runs of a block are sound and no shorter than they can be, and list items alone carry
a marker. -/
structure MarkdownBlock.Sound (block : MarkdownBlock) : Prop where
  runs : ∀ run ∈ block.runs, run.Sound library context
  styles : (block.runs.map MarkdownRun.style).IsChain (· ≠ ·)
  marked : block.marker.isSome = true ↔ block.kind = .listItem

/-- Nothing but a rule is laid out without text. -/
def MarkdownBlock.Shown (block : MarkdownBlock) : Prop := block.runs ≠ [] ∨ block.kind = .rule

structure Page.Sound (page : Page) : Prop where
  blocks : ∀ block ∈ page.blocks, block.Sound library context
  shown : ∀ block ∈ page.blocks, block.Shown
  current : ∀ block ∈ page.current, block.Sound library context

structure BlockBuilder.Sound (builder : BlockBuilder) : Prop where
  page : builder.toPage.Sound library context
  safe : ∀ href ∈ builder.href, isSafeTarget href = true

/-- Blocks carry the text of some events, all of it and in order. -/
structure LaysOut (events : List Event) (blocks : List MarkdownBlock) : Prop where
  text : blocks.flatMap MarkdownBlock.text = events.flatMap Event.shown
  sound : ∀ block ∈ blocks, block.Sound library context
  shown : ∀ block ∈ blocks, block.Shown

end Sound

variable {library : DomainLibrary} {context : LinkContext} {run other : MarkdownRun}
  {runs : List MarkdownRun} {block : MarkdownBlock} {page : Page} {builder : BlockBuilder}

section Runs

theorem sameStyle_iff : run.sameStyle other = true ↔ run.style = other.style := by
  simp [MarkdownRun.sameStyle, MarkdownRun.style, and_assoc]

theorem flatMap_addRun : (addRun run runs).flatMap (·.text) = runs.flatMap (·.text) ++ run.text := by
  induction runs with
  | nil => rw [addRun, List.flatMap_singleton, List.flatMap_nil, List.nil_append]
  | cons first rest ih =>
    cases rest with
    | nil =>
      rw [addRun]
      split
      · simp
      · simp
    | cons second rest =>
      rw [addRun, List.flatMap_cons, ih, ← List.append_assoc]
      rfl

/-- Either the last run goes on, or a run of another style is added. -/
theorem map_style_addRun :
    (addRun run runs).map MarkdownRun.style = runs.map MarkdownRun.style ∨
      ((addRun run runs).map MarkdownRun.style = runs.map MarkdownRun.style ++ [run.style] ∧
        ∀ last ∈ (runs.map MarkdownRun.style).getLast?, last ≠ run.style) := by
  induction runs with
  | nil => exact .inr ⟨rfl, fun _ hlast => (by cases hlast)⟩
  | cons first rest ih =>
    cases rest with
    | nil =>
      rw [addRun]
      split
      · exact .inl rfl
      · rename_i hstyle
        refine .inr ⟨rfl, ?_⟩
        rintro last hlast rfl
        exact hstyle (sameStyle_iff.mpr (Option.some.inj hlast))
    | cons second rest =>
      rw [addRun, List.map_cons]
      rcases ih with ih | ⟨ih, hlast⟩
      · exact .inl (by rw [ih]; rfl)
      · refine .inr ⟨by rw [ih]; rfl, ?_⟩
        rw [List.map_cons, List.map_cons, List.getLast?_cons_cons]
        exact hlast

theorem mem_addRun (h : other ∈ addRun run runs) : other ∈ runs ∨ other = run ∨
    ∃ last ∈ runs, last.sameStyle run = true ∧ other = { last with text := last.text ++ run.text } := by
  induction runs with
  | nil => exact .inr (.inl (List.mem_singleton.mp h))
  | cons first rest ih =>
    cases rest with
    | nil =>
      rw [addRun] at h
      split at h
      · rename_i hstyle
        exact .inr (.inr ⟨first, List.mem_cons_self, hstyle, List.mem_singleton.mp h⟩)
      · rcases List.mem_cons.mp h with rfl | h
        · exact .inl List.mem_cons_self
        · exact .inr (.inl (List.mem_singleton.mp h))
    | cons second rest =>
      rw [addRun, List.mem_cons] at h
      rcases h with rfl | h
      · exact .inl List.mem_cons_self
      · rcases ih h with hrest | rfl | ⟨last, hlast, hstyle⟩
        · exact .inl (List.mem_cons_of_mem _ hrest)
        · exact .inr (.inl rfl)
        · exact .inr (.inr ⟨last, List.mem_cons_of_mem _ hlast, hstyle⟩)

variable {α β : Type} {p : α → Bool} {f : α → α} {items : List α}

theorem map_updateLast {g : α → β} (h : ∀ item, g (f item) = g item) :
    (updateLast p f items).map g = items.map g := by
  induction items with
  | nil => rfl
  | cons item rest ih =>
    rw [updateLast]
    split
    · rw [List.map_cons, List.map_cons, ih]
    · split
      · rw [List.map_cons, List.map_cons, h]
      · rfl

theorem mem_updateLast {item : α} (h : item ∈ updateLast p f items) :
    item ∈ items ∨ ∃ prior ∈ items, p prior = true ∧ item = f prior := by
  induction items with
  | nil => exact .inl h
  | cons first rest ih =>
    rw [updateLast] at h
    split at h
    · rcases List.mem_cons.mp h with rfl | h
      · exact .inl List.mem_cons_self
      · rcases ih h with h | ⟨prior, hprior, hp⟩
        · exact .inl (List.mem_cons_of_mem _ h)
        · exact .inr ⟨prior, List.mem_cons_of_mem _ hprior, hp⟩
    · split at h
      · rename_i hp
        rcases List.mem_cons.mp h with rfl | h
        · exact .inr ⟨first, List.mem_cons_self, hp, rfl⟩
        · exact .inl (List.mem_cons_of_mem _ h)
      · exact .inl h

end Runs

section Sound

theorem MarkdownBlock.Sound.addRun (h : block.Sound library context)
    (hrun : run.Sound library context) :
    MarkdownBlock.Sound library context { block with runs := addRun run block.runs } where
  runs other hother := by
    rcases mem_addRun hother with hother | rfl | ⟨last, hlast, -, rfl⟩
    · exact h.runs other hother
    · exact hrun
    · have hsound := h.runs last hlast
      exact ⟨fun hempty => hsound.shown (List.append_eq_nil_iff.mp hempty).1, hsound.safe,
        hsound.named, hsound.compared⟩
  styles := by
    rcases @map_style_addRun run block.runs with hstyles | ⟨hstyles, hlast⟩
    · rw [hstyles]
      exact h.styles
    · rw [hstyles, List.isChain_append]
      refine ⟨h.styles, .singleton _, fun last hmem next hnext => ?_⟩
      cases hnext
      exact hlast last hmem
  marked := h.marked

theorem MarkdownBlock.Sound.nameLink {href : List Char} (h : block.Sound library context) :
    MarkdownBlock.Sound library context
      { block with
        runs := updateLast (fun run => run.href == some href)
          (fun run =>
            { run with
              host := destination library href
              senderDomainMatch := context.senderDomainMatch (destination library href) })
          block.runs } where
  runs other hother := by
    rcases mem_updateLast hother with hother | ⟨prior, hprior, hlink, rfl⟩
    · exact h.runs other hother
    · have hsound := h.runs prior hprior
      exact ⟨hsound.shown, hsound.safe, fun host hhost => ⟨href, beq_iff_eq.mp hlink, hhost⟩, rfl⟩
  styles :=
    Eq.mpr (congrArg (List.IsChain (· ≠ ·)) (map_updateLast fun _ => rfl)) h.styles
  marked := h.marked

end Sound

namespace Page

theorem text_closeBlock (page : Page) : page.closeBlock.text = page.text := by
  obtain ⟨blocks, current⟩ := page
  cases current with
  | none => simp [closeBlock, text]
  | some block =>
    by_cases hshown : (!block.runs.isEmpty || block.kind = .rule) = true
    · simp [closeBlock, text, Option.filter, hshown]
    · have hempty : block.runs = [] := by
        rw [Bool.or_eq_true, not_or, Bool.not_eq_true', Bool.not_eq_false,
          List.isEmpty_iff] at hshown
        exact hshown.1
      simp [closeBlock, text, Option.filter, MarkdownBlock.text, hempty]

theorem text_openBlock {quoted : Bool} {kind : MarkdownBlockKind} {marker : Option String}
    (page : Page) : (page.openBlock quoted kind marker).text = page.text := by
  rw [← text_closeBlock page]
  simp [openBlock, text, closeBlock, MarkdownBlock.text]

theorem isSome_openBlock {quoted : Bool} {kind : MarkdownBlockKind} {marker : Option String}
    (page : Page) : (page.openBlock quoted kind marker).current.isSome = true := rfl

theorem text_push {quoted : Bool} (page : Page) :
    (page.push quoted run).text = page.text ++ run.text := by
  have hadd : ∀ page : Page, page.current.isSome = true →
      text { page with
        current := page.current.map fun block => { block with runs := addRun run block.runs } } =
        page.text ++ run.text := by
    intro page hsome
    obtain ⟨block, hblock⟩ := Option.isSome_iff_exists.mp hsome
    simp only [text, hblock, Option.map_some, Option.toList_some, List.flatMap_append,
      List.flatMap_singleton, MarkdownBlock.text, flatMap_addRun, List.append_assoc]
  rw [push]
  split
  · rename_i hempty
    rw [List.isEmpty_iff.mp hempty, List.append_nil]
  · dsimp only
    split
    · rw [hadd _ (isSome_openBlock page), text_openBlock]
    · rename_i hsome
      rw [hadd page (by simpa [Option.isSome_iff_ne_none] using hsome)]

theorem text_nameLink {href : List Char} (page : Page) :
    (page.nameLink library context href).text = page.text := by
  have hruns : ∀ block : MarkdownBlock, ∀ host found,
      (updateLast (fun run : MarkdownRun => run.href == some href)
        (fun run => { run with host, senderDomainMatch := found }) block.runs).flatMap (·.text) =
        block.runs.flatMap (·.text) := by
    intro block host found
    have hmap := @map_updateLast _ _ (fun run : MarkdownRun => run.href == some href)
      (fun run => { run with host, senderDomainMatch := found }) block.runs (·.text) fun _ => rfl
    rw [List.flatMap_def, hmap, ← List.flatMap_def]
  obtain ⟨blocks, current⟩ := page
  cases current with
  | none => rfl
  | some block => simp [nameLink, text, MarkdownBlock.text, hruns]

section Sound

theorem mem_closeBlock (h : block ∈ page.closeBlock.blocks) :
    block ∈ page.blocks ∨ block ∈ page.current ∧ block.Shown := by
  rcases List.mem_append.mp h with h | h
  · exact .inl h
  · obtain ⟨hcurrent, hshown⟩ := Option.filter_eq_some_iff.mp (Option.mem_toList.mp h)
    rw [Bool.or_eq_true, Bool.not_eq_true', List.isEmpty_eq_false_iff, decide_eq_true_eq] at hshown
    exact .inr ⟨hcurrent, hshown⟩

theorem Sound.closeBlock (h : page.Sound library context) :
    page.closeBlock.Sound library context where
  blocks block hblock := by
    rcases mem_closeBlock hblock with hblock | ⟨hblock, -⟩
    · exact h.blocks block hblock
    · exact h.current block hblock
  shown block hblock := by
    rcases mem_closeBlock hblock with hblock | ⟨-, hshown⟩
    · exact h.shown block hblock
    · exact hshown
  current _ hblock := by cases hblock

theorem Sound.openBlock {quoted : Bool} {kind : MarkdownBlockKind} {marker : Option String}
    (h : page.Sound library context) (hmarker : marker.isSome = true ↔ kind = .listItem) :
    (page.openBlock quoted kind marker).Sound library context where
  blocks := h.closeBlock.blocks
  shown := h.closeBlock.shown
  current block hblock := by
    cases hblock
    refine ⟨fun _ hrun => (by cases hrun), .nil, ?_⟩
    dsimp only
    split
    · rename_i hquote
      rw [hmarker, hquote.2]
      exact ⟨fun hkind => (by cases hkind), fun hkind => (by cases hkind)⟩
    · exact hmarker

theorem Sound.push {quoted : Bool} (h : page.Sound library context)
    (hrun : run.text ≠ [] → run.Sound library context) :
    (page.push quoted run).Sound library context := by
  have hadd : ∀ page : Page, page.Sound library context → run.text ≠ [] →
      Sound library context { page with
        current := page.current.map fun block => { block with runs := addRun run block.runs } } := by
    intro page h hshown
    refine ⟨h.blocks, h.shown, fun block hblock => ?_⟩
    obtain ⟨prior, hprior, rfl⟩ := Option.map_eq_some_iff.mp hblock
    exact (h.current prior hprior).addRun (hrun hshown)
  rw [Page.push]
  split
  · exact h
  · rename_i hshown
    rw [List.isEmpty_iff] at hshown
    dsimp only
    split
    · exact hadd _ (h.openBlock ⟨fun hmarker => (by cases hmarker), fun hkind => (by cases hkind)⟩)
        hshown
    · exact hadd page h hshown

theorem Sound.nameLink {href : List Char} (h : page.Sound library context) :
    (page.nameLink library context href).Sound library context := by
  refine ⟨h.blocks, h.shown, fun block hblock => ?_⟩
  obtain ⟨prior, hprior, rfl⟩ := Option.map_eq_some_iff.mp hblock
  exact (h.current prior hprior).nameLink

end Sound

end Page

namespace BlockBuilder

theorem text_closeBlock : builder.closeBlock.text = builder.toPage.text :=
  Page.text_closeBlock builder.toPage

theorem text_openBlock {kind : MarkdownBlockKind} {marker : Option String} :
    (builder.openBlock kind marker).text = builder.toPage.text :=
  Page.text_openBlock builder.toPage

theorem text_pushText {text : List Char} {code : Bool} :
    (builder.pushText text code).text = builder.toPage.text ++ text :=
  Page.text_push builder.toPage

theorem text_finishLink : (builder.finishLink library context).text = builder.toPage.text := by
  rw [finishLink]
  split
  · rfl
  · exact Page.text_nameLink builder.toPage

theorem text_startTag (tag : Tag) :
    (builder.startTag tag).text = builder.toPage.text ++ (Event.start tag).shown := by
  cases tag with
  | paragraph | heading | codeBlock | table | tableHead | tableRow =>
    exact text_openBlock.trans (List.append_nil _).symm
  | blockQuote | list => exact text_closeBlock.trans (List.append_nil _).symm
  | item => exact (Page.text_openBlock builder.toPage).trans (List.append_nil _).symm
  | tableCell => exact text_pushText
  | emphasis | strong | link | image | other => exact (List.append_nil _).symm

theorem text_finishTag (tag : TagEnd) :
    (builder.finishTag library context tag).text = builder.toPage.text := by
  cases tag with
  | paragraph | heading | codeBlock | item | table | tableHead | tableRow | blockQuote | list =>
    exact text_closeBlock
  | link =>
    rw [finishTag]
    dsimp only
    split
    · exact text_finishLink
    · rfl
  | emphasis | strong | image | tableCell | other => rfl

theorem text_step (event : Event) :
    (builder.step library context event).text = builder.toPage.text ++ event.shown := by
  cases event with
  | start tag => exact text_startTag tag
  | finish tag => exact (text_finishTag tag).trans (List.append_nil _).symm
  | text | html | inlineHtml | code | softBreak | hardBreak | footnoteReference | taskListMarker
  | inlineMath | displayMath => exact text_pushText
  | rule => exact (text_closeBlock.trans text_openBlock).trans (List.append_nil _).symm

theorem text_steps (events : List Event) :
    (builder.steps library context events).text =
      builder.toPage.text ++ events.flatMap Event.shown := by
  induction events generalizing builder with
  | nil => exact (List.append_nil _).symm
  | cons event events ih =>
    calc (builder.steps library context (event :: events)).text
        = (builder.step library context event).text ++ events.flatMap Event.shown := ih
      _ = builder.text ++ (event :: events).flatMap Event.shown := by
        rw [text_step, List.flatMap_cons, List.append_assoc]

section Sound

theorem Sound.onPage {f : Page → Page} (h : builder.Sound library context)
    (hpage : (f builder.toPage).Sound library context) :
    (builder.onPage f).Sound library context :=
  ⟨hpage, h.safe⟩

theorem Sound.closeBlock (h : builder.Sound library context) :
    builder.closeBlock.Sound library context :=
  h.onPage h.page.closeBlock

theorem Sound.openBlock {kind : MarkdownBlockKind} {marker : Option String}
    (h : builder.Sound library context) (hmarker : marker.isSome = true ↔ kind = .listItem) :
    (builder.openBlock kind marker).Sound library context :=
  h.onPage (h.page.openBlock hmarker)

theorem sound_run {text : List Char} {code : Bool} (h : builder.Sound library context)
    (hshown : text ≠ []) : (builder.run text code).Sound library context where
  shown := hshown
  safe := h.safe
  named _ hhost := by cases hhost
  compared := rfl

theorem Sound.pushText {text : List Char} {code : Bool} (h : builder.Sound library context) :
    (builder.pushText text code).Sound library context :=
  h.onPage (h.page.push (sound_run h))

theorem Sound.finishLink (h : builder.Sound library context) :
    (builder.finishLink library context).Sound library context := by
  rw [BlockBuilder.finishLink]
  split
  · exact h
  · exact ⟨h.page.nameLink, fun _ hhref => (by cases hhref)⟩

theorem isSafeTarget_of_safeLinkTarget {url href : List Char} (h : href ∈ safeLinkTarget url) :
    isSafeTarget href = true := by
  rw [safeLinkTarget] at h
  split at h
  · cases h
    assumption
  · cases h

theorem Sound.startTag (h : builder.Sound library context) (tag : Tag) :
    (builder.startTag tag).Sound library context := by
  cases tag with
  | paragraph | heading | codeBlock | table | tableHead | tableRow =>
    exact h.openBlock ⟨fun hmarker => (by cases hmarker), fun hkind => (by cases hkind)⟩
  | blockQuote | list => exact ⟨h.page.closeBlock, h.safe⟩
  | item => exact ⟨h.page.openBlock (iff_of_true rfl rfl), h.safe⟩
  | tableCell => exact h.pushText
  | link =>
    refine ⟨h.page, fun href hhref => ?_⟩
    dsimp only [BlockBuilder.startTag] at hhref
    split at hhref
    · exact isSafeTarget_of_safeLinkTarget hhref
    · exact h.safe href hhref
  | emphasis | strong | image | other => exact ⟨h.page, h.safe⟩

theorem Sound.finishTag (h : builder.Sound library context) (tag : TagEnd) :
    (builder.finishTag library context tag).Sound library context := by
  cases tag with
  | paragraph | heading | codeBlock | item | table | tableHead | tableRow => exact h.closeBlock
  | blockQuote | list => exact ⟨h.page.closeBlock, h.safe⟩
  | link =>
    rw [BlockBuilder.finishTag]
    dsimp only
    split
    · exact Sound.finishLink ⟨h.page, h.safe⟩
    · exact ⟨h.page, h.safe⟩
  | emphasis | strong | image | tableCell | other => exact ⟨h.page, h.safe⟩

theorem Sound.step (h : builder.Sound library context) (event : Event) :
    (builder.step library context event).Sound library context := by
  cases event with
  | start tag => exact h.startTag tag
  | finish tag => exact h.finishTag tag
  | text | html | inlineHtml | code | softBreak | hardBreak | footnoteReference | taskListMarker
  | inlineMath | displayMath => exact h.pushText
  | rule =>
    have hrule : (builder.openBlock .rule none).Sound library context :=
      h.openBlock ⟨fun hmarker => (by cases hmarker), fun hkind => (by cases hkind)⟩
    exact hrule.closeBlock

theorem Sound.steps (h : builder.Sound library context) (events : List Event) :
    (builder.steps library context events).Sound library context := by
  induction events generalizing builder with
  | nil => exact h
  | cons event events ih => exact ih (h.step event)

theorem sound_empty : BlockBuilder.Sound library context {} :=
  ⟨⟨fun _ hblock => (by cases hblock), fun _ hblock => (by cases hblock),
    fun _ hblock => (by cases hblock)⟩, fun _ hhref => (by cases hhref)⟩

end Sound
end BlockBuilder

/-- Whatever events a parser reads from a body, the blocks carry all of their text in order,
and every run links to a web or mail address or to nothing. -/
theorem markdownBlocks_laysOut (library : DomainLibrary) (parser : List Char → List Event)
    (markdown : List Char) (context : LinkContext) :
    LaysOut library context (parser markdown) (markdownBlocks library parser markdown context) := by
  have hsound : (BlockBuilder.steps library context {} (parser markdown)).Sound library context :=
    BlockBuilder.sound_empty.steps (parser markdown)
  refine ⟨?_, hsound.page.closeBlock.blocks, hsound.page.closeBlock.shown⟩
  calc (markdownBlocks library parser markdown context).flatMap MarkdownBlock.text
      = (BlockBuilder.steps library context {} (parser markdown)).closeBlock.text := by
        simp [markdownBlocks, Page.text, BlockBuilder.closeBlock, BlockBuilder.onPage, Page.closeBlock]
    _ = (BlockBuilder.steps library context {} (parser markdown)).text := BlockBuilder.text_closeBlock
    _ = (parser markdown).flatMap Event.shown := BlockBuilder.text_steps (parser markdown)

end AgentFirstMail.Markdown
