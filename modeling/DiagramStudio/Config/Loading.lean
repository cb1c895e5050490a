import DiagramStudio.Config.Decoding
import DiagramStudio.Toml.Document

/-!
The configuration that a TOML document holds. One that is used has to hold together: bounds in order,
colors that can be read.
-/

namespace DiagramStudio

/-- Why a configuration is not used. -/
inductive ConfigFault where
  /-- The text is no TOML document, or not that of a configuration. -/
  | unreadable
  | missing (path : String)
  | viewer (fault : ViewerFault)
  | style (fault : StyleFault)

def ConfigFault.message : ConfigFault → String
  | unreadable => "Failed to parse TOML configuration: not a document of a configuration"
  | missing path => "Missing configuration file: " ++ path
  | viewer fault => "Validation error: " ++ fault.message
  | style fault => "Validation error: " ++ fault.message

namespace Config

/-- The configuration that a document spells. -/
def ofToml? (text : List Char) : Option Config :=
  (Toml.read? text).bind ofSetting?

/-- What is wrong with the values of the configuration: the viewer is looked at first, then the colors
    of background and title. -/
def fault? (c : Config) : Option ConfigFault :=
  match c.viewer.validate with
  | .error fault => some (.viewer fault)
  | .ok () =>
    match c.canvas.background with
    | .error fault => some (.style fault)
    | .ok _ =>
      match c.canvas.titleInk with
      | .error fault => some (.style fault)
      | .ok _ => none

/-- The configuration that a document spells, if it can be used. -/
def ofDocument (text : List Char) : Except ConfigFault Config :=
  match ofToml? text with
  | none => .error .unreadable
  | some config =>
    match config.fault? with
    | some fault => .error fault
    | none => .ok config

end Config

end DiagramStudio
