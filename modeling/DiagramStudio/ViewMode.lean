import DiagramStudio.Json.Value

/-!
The two ways of looking at a diagram: its source in the editor, its picture in the viewer.
-/

namespace DiagramStudio

inductive ViewMode where
  | editor
  | viewer
deriving Repr, DecidableEq, Inhabited

namespace ViewMode

def name : ViewMode → String
  | editor => "editor"
  | viewer => "viewer"

/-- The mode with the given name. -/
def ofName? (name : String) : Option ViewMode :=
  [editor, viewer].find? fun mode => mode.name == name

/-- The mode that a document stands for: its name, or an object whose one member has the name and
    no value. -/
def ofJson? : Json → Option ViewMode
  | .string name => name.text?.bind ofName?
  | .object [(name, .null)] => name.text?.bind ofName?
  | _ => none

/-- The document that stands for the mode. -/
def toJson (mode : ViewMode) : Json := .ofText mode.name

theorem ofName?_name (mode : ViewMode) : ofName? mode.name = some mode := by
  cases mode <;> decide

end ViewMode

end DiagramStudio
