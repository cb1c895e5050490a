import DiagramStudio.Text.White

/-!
Paths: the text that names a file, and the names that it is made of.
-/

namespace DiagramStudio.Path

/-- What stands between the names of a path. -/
def separator : Char := '/'

/-- The names of a path, empty ones included: one in front of a leading separator, one behind a
    trailing one, and one between two that touch. -/
def names (path : List Char) : List (List Char) :=
  Text.pieces (· == separator) path

/-- The path begins at the root. -/
def isAbsolute (path : List Char) : Bool :=
  path.head? == some separator

/-- The name of the directory itself. -/
def here : List Char := ['.']

/-- The name of the directory around. -/
def above : List Char := ['.', '.']

/-- The name says where to look, not what for. -/
def isEmptyStep (name : List Char) : Bool :=
  name.isEmpty || name == here

/-- The names that lead anywhere. -/
def steps (path : List Char) : List (List Char) :=
  (names path).filter (!isEmptyStep ·)

/-- The path of a name in a directory. -/
def join (directory name : List Char) : List Char :=
  if directory.isEmpty then name
  else if directory.getLast? = some separator then directory ++ name
  else directory ++ separator :: name

/-- The path of the given names. -/
def ofSteps (absolute : Bool) (steps : List (List Char)) : List Char :=
  let body := [separator].intercalate steps
  if absolute then separator :: body else body

/-- A name without its extension: what stands in front of its last point, unless nothing does. -/
def withoutExtension (name : List Char) : List Char :=
  match (Text.pieces (· == '.') name).dropLast with
  | [] => name
  | [[]] => name
  | parts => ['.'].intercalate parts

/-- The name of the file that a path leads to, without its extension; a path that leads upwards last
    has none. -/
def stem (path : List Char) : List Char :=
  match (steps path).getLast? with
  | some name => if name = above then [] else withoutExtension name
  | none => []

end DiagramStudio.Path
