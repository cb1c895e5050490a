import DiagramStudio.Config.Basic
import DiagramStudio.Config.Setting

/-!
The configuration that a setting stands for. Every field has a default, but a field that is given has
to be of its kind.
-/

namespace DiagramStudio

open Setting (orDefault)

def EditorConfig.ofSetting? (s : Setting) : Option EditorConfig := do
  let default : EditorConfig := {}
  match ← s.fields? ["history_limit", "autosave_delay_ms"] with
  | [limit, delay] =>
    return ⟨← orDefault Setting.word? default.historyLimit limit,
      ← orDefault Setting.word? default.autosaveDelay delay⟩
  | _ => none

def ViewerConfig.ofSetting? (s : Setting) : Option ViewerConfig := do
  let default : ViewerConfig := {}
  match ← s.fields? ["min_zoom", "max_zoom", "zoom_step"] with
  | [minZoom, maxZoom, zoomStep] =>
    return ⟨← orDefault Setting.single? default.minZoom minZoom,
      ← orDefault Setting.single? default.maxZoom maxZoom,
      ← orDefault Setting.single? default.zoomStep zoomStep⟩
  | _ => none

def CanvasConfig.ofSetting? (s : Setting) : Option CanvasConfig := do
  let default : CanvasConfig := {}
  match ← s.fields? ["background_color", "title_color", "title_font_size", "title_band",
    "title_baseline", "margin", "min_width", "scale"] with
  | [background, ink, fontSize, band, baseline, margin, minWidth, scale] =>
    return ⟨← orDefault Setting.text? default.backgroundColor background,
      ← orDefault Setting.text? default.titleColor ink,
      ← orDefault Setting.single? default.titleFontSize fontSize,
      ← orDefault Setting.single? default.titleBand band,
      ← orDefault Setting.single? default.titleBaseline baseline,
      ← orDefault Setting.single? default.margin margin,
      ← orDefault Setting.single? default.minWidth minWidth,
      ← orDefault Setting.single? default.scale scale⟩
  | _ => none

def StorageConfig.ofSetting? (s : Setting) : Option StorageConfig := do
  let default : StorageConfig := {}
  match ← s.fields? ["code_key", "title_key"] with
  | [codeKey, titleKey] =>
    return ⟨← orDefault Setting.text? default.codeKey codeKey,
      ← orDefault Setting.text? default.titleKey titleKey⟩
  | _ => none

def RenderConfig.ofSetting? (s : Setting) : Option RenderConfig := do
  let default : RenderConfig := {}
  match ← s.fields? ["command", "args"] with
  | [command, args] =>
    return ⟨← orDefault Setting.text? default.command command,
      ← orDefault Setting.texts? default.args args⟩
  | _ => none

def Config.ofSetting? (s : Setting) : Option Config := do
  match ← s.fields? ["editor", "viewer", "export", "storage", "render"] with
  | [editor, viewer, canvas, storage, render] =>
    return ⟨← orDefault EditorConfig.ofSetting? {} editor,
      ← orDefault ViewerConfig.ofSetting? {} viewer,
      ← orDefault CanvasConfig.ofSetting? {} canvas,
      ← orDefault StorageConfig.ofSetting? {} storage,
      ← orDefault RenderConfig.ofSetting? {} render⟩
  | _ => none

end DiagramStudio
