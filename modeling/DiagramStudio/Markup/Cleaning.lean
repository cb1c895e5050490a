import DiagramStudio.Markup.Fault

/-!
Cleaning a drawing before it is embedded in another document. Scripts go with all they contain,
attributes that run a script go, document types and instructions go, the root gets the namespace of
drawings, and references other than to characters and predefined entities are refused. All else is
written as it was read.
-/

namespace DiagramStudio.Markup

/-- The namespace of drawings. -/
def svgNamespace : String := "http://www.w3.org/2000/svg"

/-- The key of the attribute that gives an element and its content their namespace. -/
def namespaceKey : List Char := "xmlns".toList

/-- The attribute that gives the namespace of drawings. -/
def svgNamespaceAttribute : Attribute := ⟨namespaceKey, svgNamespace.toList⟩

/-- The entities that need no declaration. -/
def predefinedEntities : List (List Char) :=
  ["lt", "gt", "amp", "apos", "quot"].map String.toList

/-- A reference that means the same in every document: by number or to a predefined entity. -/
def isSafeReference (name : List Char) : Bool :=
  "#".toList.isPrefixOf name || predefinedEntities.contains name

namespace Tag

/-- An element that runs a program. -/
def isScript (tag : Tag) : Bool := tag.isCalled "script"

/-- An element that holds a drawing. -/
def isDrawing (tag : Tag) : Bool := tag.isCalled "svg"

end Tag

namespace Attribute

/-- The attribute that gives the element's own namespace. -/
def isNamespace (a : Attribute) : Bool := a.key == namespaceKey

/-- An attribute that runs a program when something happens. -/
def isHandler (a : Attribute) : Bool :=
  Text.startsFolded "on".toList (localName a.key)

/-- White space of ASCII. -/
def isAsciiSpace (c : Char) : Bool :=
  c == ' ' || c == '\t' || c == '\n' || c == '\x0c' || c == '\r'

/-- What a link begins with that runs a program. -/
def scriptScheme : List Char := "javascript:".toList

/-- A link that runs a program. -/
def isScriptLink (a : Attribute) : Bool :=
  a.isCalled "href" && Text.startsFolded scriptScheme (a.value.filter (!isAsciiSpace ·))

/-- The attribute may stay. -/
def isSafe (a : Attribute) : Bool :=
  !a.isHandler && !a.isScriptLink

/-- The attributes that may stay. -/
def safe (attributes : List Attribute) : List Attribute :=
  attributes.filter isSafe

/-- The attributes that may stay at the root, with the namespace of drawings in place of another, or
    in front if there is none. -/
def safeAtRoot (attributes : List Attribute) : List Attribute :=
  let kept := (safe attributes).map fun a => if a.isNamespace then svgNamespaceAttribute else a
  if attributes.any isNamespace then kept else svgNamespaceAttribute :: kept

end Attribute

namespace Cleaning

/-- How far cleaning has come. -/
structure Progress where
  /-- How many elements are open that stay. -/
  depth : Nat
  /-- How many elements are open that go: a script and those in it. -/
  dropping : Nat
  /-- The root has been seen. -/
  rooted : Bool
deriving Repr, DecidableEq

def start : Progress := ⟨0, 0, false⟩

/-- The tag of an element that stays, cleaned. At the top there is room for one drawing only. -/
def element (p : Progress) (tag : Tag) : Except Fault Tag := do
  if 0 < p.depth then
    match tag.attributes with
    | .ok attributes => return .ofAttributes tag.name (Attribute.safe attributes)
    | .error fault => throw (.attributes fault)
  else if p.rooted then throw (.secondRoot tag.name)
  else if !tag.isDrawing then throw (.foreignRoot tag.name)
  else
    match tag.attributes with
    | .ok attributes => return .ofAttributes tag.name (Attribute.safeAtRoot attributes)
    | .error fault => throw (.attributes fault)

/-- What becomes of one event: how far cleaning has come behind it, and the event that is written
    for it, if any is. -/
def step (p : Progress) (e : Event) : Except Fault (Progress × Option Event) :=
  if 0 < p.dropping then
    match e with
    | .opening _ => .ok (⟨p.depth, p.dropping + 1, p.rooted⟩, none)
    | .closing _ => .ok (⟨p.depth, p.dropping - 1, p.rooted⟩, none)
    | _ => .ok (p, none)
  else
    match e with
    | .opening tag =>
      if tag.isScript then .ok (⟨p.depth, 1, p.rooted⟩, none)
      else do
        let tag ← element p tag
        return (⟨p.depth + 1, 0, true⟩, some (.opening tag))
    | .standalone tag =>
      if tag.isScript then .ok (p, none)
      else do
        let tag ← element p tag
        return (⟨p.depth, 0, true⟩, some (.standalone tag))
    | .closing name => .ok (⟨p.depth - 1, 0, p.rooted⟩, some (.closing name))
    | .doctype _ | .instruction _ => .ok (p, none)
    | .reference name =>
      if isSafeReference name then .ok (p, some (.reference name))
      else .error (.undeclaredReference name)
    | .text _ | .comment _ | .characterData _ | .declaration _ => .ok (p, some e)

/-- What becomes of a row of events: where cleaning stands behind it, and what is written. -/
def run (p : Progress) : List Event → Except Fault (Progress × List Event)
  | [] => .ok (p, [])
  | e :: more => do
    let (p, written) ← step p e
    let (p, rest) ← run p more
    return (p, written.toList ++ rest)

end Cleaning

/-- The events of a cleaned document. Faults are met in the order of the text; that it ends too early
    or has no root shows at its end. -/
def cleanEvents (s : List Char) : Except Fault (List Event) := do
  let reading := read s
  let (p, events) ← Cleaning.run Cleaning.start reading.events
  match reading.fault with
  | some fault => throw (.reading fault)
  | none =>
    if 0 < p.depth ∨ 0 < p.dropping then throw .unfinished
    else if !p.rooted then throw .noRoot
    else return events

/-- The document cleaned. -/
def clean (s : List Char) : Except Fault (List Char) :=
  (cleanEvents s).map render

end DiagramStudio.Markup
