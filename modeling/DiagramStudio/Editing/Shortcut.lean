import DiagramStudio.Text.Case

/-!
Keyboard shortcuts of the editor.
-/

namespace DiagramStudio

/-- A key that was pressed, and the keys held with it. -/
structure Chord where
  key : String
  ctrl : Bool := false
  meta_ : Bool := false
  shift : Bool := false
deriving Repr, DecidableEq, Inhabited

/-- What a shortcut does. -/
inductive EditCommand where
  | undo
  | redo
deriving Repr, DecidableEq

/-- A command bound to a chord. -/
structure Shortcut where
  command : EditCommand
  /-- The key press shall have no other effect. -/
  preventDefault : Bool
deriving Repr, DecidableEq

namespace Chord

/-- The chord is of the given letter, large or small. -/
def hasKey (c : Chord) (letter : Char) : Bool :=
  Text.sameFolded c.key.toList [letter]

/-- The command of a chord: undo on Z, redo on Z with shift and on Y, all with control or meta. -/
def command? (c : Chord) : Option EditCommand :=
  if c.ctrl || c.meta_ then
    if c.hasKey 'z' then some (if c.shift then .redo else .undo)
    else if c.hasKey 'y' then some .redo
    else none
  else none

def shortcut? (c : Chord) : Option Shortcut :=
  c.command?.map (⟨·, true⟩)

end Chord

end DiagramStudio
