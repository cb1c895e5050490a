import DiagramStudio.Canvas.Export
import DiagramStudio.Config.Loading
import DiagramStudio.Editing.Storage
import DiagramStudio.Finding.Rules
import DiagramStudio.Preview.Request

/-!
Failures of the program, by what failed.
-/

namespace DiagramStudio

inductive Failure where
  | system (fault : SystemFault)
  /-- The validator found errors in a source. -/
  | findings (found : List Finding) (source : String)
  | render (fault : RenderFault)
  | exporting (fault : ExportFault)
  | config (fault : ConfigFault)
  | storage (fault : StorageFault)

namespace Failure

def message : Failure → String
  | system fault => "I/O error: " ++ fault.message
  | findings found _ => Finding.summary found
  | render fault => "Render error: " ++ fault.message
  | exporting fault => "Export error: " ++ fault.message
  | config fault => "Configuration error: " ++ fault.message
  | storage fault => "Storage error: " ++ fault.message

/-- What a failure of this kind is called in reports; findings have codes of their own. -/
def code? : Failure → Option String
  | system _ => some "mermaid_studio::io"
  | findings _ _ => none
  | render _ => some "mermaid_studio::render"
  | exporting _ => some "mermaid_studio::export"
  | config _ => some "mermaid_studio::config"
  | storage _ => some "mermaid_studio::storage"

/-- What to do about the failure. -/
def help? : Failure → Option String
  | render _ => some "the renderer is configured under [render] in the configuration file"
  | _ => none

/-- The text of the fault behind the failure. -/
def cause? : Failure → Option String
  | system fault => some fault.message
  | findings _ _ => none
  | render fault => some fault.message
  | exporting fault => some fault.message
  | config _ => none
  | storage fault => some fault.message

end Failure

end DiagramStudio
