import DiagramStudio.Naming.Timestamp

/-!
Names of exported files: the time, and the title reduced to small ASCII letters and digits.
-/

namespace DiagramStudio.FileName

/-- The characters that a name keeps of a title. -/
def isPlain (c : Char) : Bool := c.isAlphanum

/-- What stands for a title of which nothing is kept. -/
def fallback : List Char := "diagram".toList

/-- What is kept so far, its last character first, with a hyphen behind it. One hyphen is enough, and none comes
    first. -/
def divide (kept : List Char) : List Char :=
  if kept ≠ [] ∧ kept.head? ≠ some '-' then '-' :: kept else kept

/-- One more character of the title: it is kept as a small letter or digit, or divides what is kept from what
    follows. -/
def extend (kept : List Char) (c : Char) : List Char :=
  if isPlain c then c.toLower :: kept else divide kept

/-- What is kept of the whole title, in order, without a hyphen at the end. -/
def finish (kept : List Char) : List Char :=
  (if kept.head? = some '-' then kept.tail else kept).reverse

/-- The title as a part of a file name: its ASCII letters and digits, in small letters, with a hyphen wherever
    anything else stands between two of them. -/
def slug (title : List Char) : List Char :=
  let kept := finish (title.foldl extend [])
  if kept = [] then fallback else kept

/-- The name of a file exported at a time under a title. -/
def make (title : String) (time : Timestamp) (extension : String) : String :=
  String.ofList (time.compact ++ '-' :: slug title.toList) ++ "." ++ extension

/-- The extension of rasterized images. -/
def imageExtension : String := "png"

/-- The name of the image of a diagram. -/
def ofImage (title : String) (time : Timestamp) : String :=
  make title time imageExtension

end DiagramStudio.FileName
