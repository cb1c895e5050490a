/-!
The kinds of diagram, each opened by its own keyword, and the directions that a flow can run in.
-/

namespace DiagramStudio

/-- The kinds of diagram. -/
inductive DiagramKind where
  | graph
  | flowchart
  | sequence
  | classes
  | state
  | stateV2
  | entityRelationship
  | journey
  | gantt
  | pie
  | gitGraph
  | quadrantChart
  | requirement
  | mindmap
  | timeline
  | c4Context
deriving Repr, DecidableEq

namespace DiagramKind

/-- Every kind, in the order in which they are listed to a reader. -/
def all : List DiagramKind :=
  [graph, flowchart, sequence, classes, state, stateV2, entityRelationship, journey, gantt, pie,
    gitGraph, quadrantChart, requirement, mindmap, timeline, c4Context]

/-- The word that opens a diagram of the kind. -/
def keyword : DiagramKind → String
  | graph => "graph"
  | flowchart => "flowchart"
  | sequence => "sequenceDiagram"
  | classes => "classDiagram"
  | state => "stateDiagram"
  | stateV2 => "stateDiagram-v2"
  | entityRelationship => "erDiagram"
  | journey => "journey"
  | gantt => "gantt"
  | pie => "pie"
  | gitGraph => "gitGraph"
  | quadrantChart => "quadrantChart"
  | requirement => "requirementDiagram"
  | mindmap => "mindmap"
  | timeline => "timeline"
  | c4Context => "C4Context"

/-- The kind that the word opens; keywords are told apart by case. -/
def ofKeyword? (word : List Char) : Option DiagramKind :=
  all.find? fun kind => kind.keyword.toList == word

/-- A direction may follow the keyword. -/
def takesDirection : DiagramKind → Bool
  | graph | flowchart => true
  | _ => false

theorem mem_all (kind : DiagramKind) : kind ∈ all := by
  cases kind <;> decide

/-- No two kinds share a keyword. -/
theorem ofKeyword?_keyword (kind : DiagramKind) : ofKeyword? kind.keyword.toList = some kind := by
  cases kind <;> decide

end DiagramKind

/-- The directions of a flow. -/
inductive Direction where
  | topDown
  | topToBottom
  | bottomToTop
  | rightToLeft
  | leftToRight
deriving Repr, DecidableEq

namespace Direction

/-- Every direction, in the order in which they are listed to a reader. -/
def all : List Direction :=
  [topDown, topToBottom, bottomToTop, rightToLeft, leftToRight]

/-- The code that stands for the direction in a diagram. -/
def code : Direction → String
  | topDown => "TD"
  | topToBottom => "TB"
  | bottomToTop => "BT"
  | rightToLeft => "RL"
  | leftToRight => "LR"

/-- The direction that a code stands for. -/
def ofCode? (word : List Char) : Option Direction :=
  all.find? fun direction => direction.code.toList == word

theorem ofCode?_code (direction : Direction) : ofCode? direction.code.toList = some direction := by
  cases direction <;> decide

/-- What is said of a word that is no code. -/
def invalidMessage (word : String) : String :=
  "invalid direction `" ++ word ++ "`"

end Direction

end DiagramStudio
