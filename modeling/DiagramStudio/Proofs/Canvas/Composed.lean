import DiagramStudio.Canvas.Export
import DiagramStudio.Proofs.Canvas.Drawing
import DiagramStudio.Proofs.Color.Written
import DiagramStudio.Proofs.Markup.Filter
import DiagramStudio.Proofs.Text.Base64

/-!
Exports that are read again. Nothing is composed where a color or the markup is not accepted, and what is
composed is read as one root with the backdrop, the heading and the picture in it (`compose_reread`). The
title is lettered character by character, whatever it holds, and the picture is the cleaned drawing.
-/

namespace DiagramStudio.Export

open Markup Number Drawing Text

/-! ## The document as it is read -/

/-- What is read of an export. -/
structure Document where
  root : Tag
  backdrop : Tag
  heading : Tag
  /-- What stands between the tags of the heading. -/
  lettering : List Event
  image : Tag

namespace Document

def tags (d : Document) : List Tag := [d.root, d.backdrop, d.heading, d.image]

/-- In the root stand the backdrop, the heading and the picture, each on lines of its own. -/
def events (d : Document) : List Event :=
  .opening d.root :: .text ['\n'] :: .standalone d.backdrop :: .text ['\n'] :: .opening d.heading ::
    (d.lettering ++ [.closing d.heading.name, .text ['\n'], .standalone d.image, .text ['\n'], .closing d.root.name])

/-- The address of the picture is the only one that it has, and it is data from which the bytes of the drawing
    are read. -/
def Embeds (d : Document) (drawing : List Char) : Prop :=
  ∃ attributes code, d.image.attributes = .ok attributes ∧
    attributes.filter (·.isCalled "href") = [⟨"href".toList, dataScheme ++ code⟩] ∧
      Base64.standard.decode? code = some (Utf8.encode drawing)

/-- The document shows a title on lines of its own, and it holds a drawing. -/
structure Shows (d : Document) (title drawing : List Char) : Prop where
  names : d.tags.map (·.name) = ["svg", "rect", "text", "image"].map String.toList
  attributes : ∀ tag ∈ d.tags, tag.HasAttributes
  title : characters? d.lettering = some ('\n' :: title ++ ['\n'])
  drawing : d.Embeds drawing

end Document

/-! ## No value ends early -/

theorem noQuote_number (x : Float32) : '"' ∉ number x :=
  fun quote => absurd (Single.isNumeral_of_mem_text quote) (by decide)

theorem noQuote_color {subject text : String} {color : Color} (read : CanvasConfig.color subject text = .ok color) :
    '"' ∉ color.display.toList := by
  unfold CanvasConfig.color at read
  split at read
  · next found =>
    cases read
    exact fun quote => absurd (Color.isInk_of_read found quote) (by decide)
  · cases read

theorem noQuote_dataAddress (drawing : List Char) : '"' ∉ dataAddress drawing := by
  intro quote
  rcases List.mem_append.mp quote with scheme | code
  · exact absurd scheme (by decide)
  · exact absurd (Base64.isStandard_of_mem_encode code) (by decide)

/-- No character of the address has to be written by an entity. -/
theorem plain_dataAddress (drawing : List Char) : ∀ c ∈ dataAddress drawing, entity? c = none := by
  intro c member
  rcases List.mem_append.mp member with scheme | code
  · have plain : dataScheme.all (fun c => (entity? c).isNone) = true := by decide
    exact Option.isNone_iff_eq_none.mp (List.all_eq_true.mp plain c scheme)
  · have other : c ∉ ['&', '<', '>'] := not_mem_of_all (by decide) (Base64.isStandard_of_mem_encode code)
    simp only [List.mem_cons, List.not_mem_nil, or_false, not_or] at other
    simp [entity?, other]

/-! ## The tags of the sheet -/

theorem isProperTag_backdrop (layout : Layout) {color : Color} (plain : '"' ∉ color.display.toList) :
    IsProperTag "rect" (backdrop layout color).attributes := by
  refine .of_keys ["fill", "fill-opacity", "height", "width", "x", "y"] rfl (by decide) ?_
  simp only [backdrop, Drawing.attributes, List.forall_mem_cons, List.not_mem_nil, false_imp_iff, implies_true, and_true]
  exact ⟨plain, noQuote_number _, noQuote_number _, noQuote_number _, by decide, by decide⟩

theorem isProperTag_heading (layout : Layout) (config : CanvasConfig) {ink : Color} (title : String)
    (plain : '"' ∉ ink.display.toList) : IsProperTag "text" (heading layout config ink title).attributes := by
  refine .of_keys ["fill", "font-family", "font-size", "font-weight", "text-anchor", "x", "y"] rfl (by decide) ?_
  simp only [heading, Drawing.attributes, List.forall_mem_cons, List.not_mem_nil, false_imp_iff, implies_true, and_true]
  exact ⟨plain, by decide, noQuote_number _, by decide, by decide, noQuote_number _, noQuote_number _⟩

theorem isProperTag_picture (layout : Layout) (drawing : List Char) :
    IsProperTag "image" (picture layout drawing).attributes := by
  refine .of_keys ["height", "href", "width", "x", "y"] rfl (by decide) ?_
  simp only [picture, Drawing.attributes, List.forall_mem_cons, List.not_mem_nil, false_imp_iff, implies_true, and_true]
  exact ⟨noQuote_number _, noQuote_dataAddress drawing, noQuote_number _, noQuote_number _, noQuote_number _⟩

theorem isProperTag_sheet (layout : Layout) (parts : List Drawing) :
    IsProperTag "svg" (sheet layout parts).attributes := by
  refine .of_keys ["height", "viewBox", "width", "xmlns"] rfl (by decide) ?_
  simp only [sheet, Drawing.attributes, List.forall_mem_cons, List.not_mem_nil, false_imp_iff, implies_true, and_true]
  refine ⟨noQuote_number _, fun quote => ?_, noQuote_number _, by decide⟩
  rcases List.mem_append.mp quote with front | height
  · rcases List.mem_append.mp front with corner | width
    · exact absurd corner (by decide)
    · exact noQuote_number _ width
  · rcases List.mem_cons.mp height with blank | height
    · exact absurd blank (by decide)
    · exact noQuote_number _ height

/-! ## The sheet read again -/

/-- The parts of a sheet with a title and a drawing. -/
def parts (layout : Layout) (config : CanvasConfig) (background ink : Color) (title : String) (drawing : List Char) :
    List Drawing :=
  [backdrop layout background, heading layout config ink title, picture layout drawing]

/-- What is lettered for a title. -/
def shown (title : String) : List Char := if title.isEmpty then placeholder.toList else title.toList

theorem shown_eq (title : String) : shown title = if title = "" then "Diagram".toList else title.toList := by
  unfold shown
  by_cases empty : title = ""
  · rw [if_pos empty, if_pos (String.isEmpty_iff.mpr empty), placeholder]
  · rw [if_neg empty, if_neg fun isEmpty => empty (String.isEmpty_iff.mp isEmpty)]

/-- The document that is read of a sheet. -/
def document (layout : Layout) (config : CanvasConfig) (background ink : Color) (title : String) (drawing : List Char) :
    Document where
  root := tag "svg" (sheet layout (parts layout config background ink title drawing)).attributes
  backdrop := tag "rect" (backdrop layout background).attributes
  heading := tag "text" (heading layout config ink title).attributes
  lettering := withChars ('\n' :: shown title ++ ['\n']) []
  image := tag "image" (picture layout drawing).attributes

section Sheet

variable (layout : Layout) (config : CanvasConfig) {background ink : Color} (title : String) (drawing : List Char)

theorem before_sheet :
    (sheet layout (parts layout config background ink title drawing)).before [] =
      (document layout config background ink title drawing).events := by
  let d := document layout config background ink title drawing
  let behind : List Event := [.text ['\n'], .standalone d.image, .text ['\n'], .closing d.root.name]
  have lettered : withChar '\n' (withChars (shown title) (withChar '\n' (.closing d.heading.name :: behind))) =
      d.lettering ++ .closing d.heading.name :: behind := by
    have joined : withChar '\n' (withChars (shown title) (withChar '\n' (.closing d.heading.name :: behind))) =
        withChars ('\n' :: shown title ++ ['\n']) (.closing d.heading.name :: behind) := by
      simp only [withChars, List.cons_append, List.foldr_cons, List.foldr_append, List.foldr_nil]
    exact joined.trans (withChars_mark rfl _ _)
  have whole : (sheet layout (parts layout config background ink title drawing)).before [] =
      .opening d.root :: .text ['\n'] :: .standalone d.backdrop :: .text ['\n'] :: .opening d.heading ::
        withChar '\n' (withChars (shown title) (withChar '\n' (.closing d.heading.name :: behind))) := by
    rfl
  rw [whole, lettered]
  rfl

theorem embeds_document : (document layout config background ink title drawing).Embeds drawing := by
  have same : escape (dataAddress drawing) = dataAddress drawing := escape_of_plain (plain_dataAddress drawing)
  refine ⟨_, Base64.standard.encode (Utf8.encode drawing), attributes_tag (isProperTag_picture layout drawing), ?_,
    Base64.decode?_encode_standard _⟩
  have called (key : String) (value : List Char) :
      (inTag (key, value)).isCalled "href" = Text.sameFolded (localName key.toList) "href".toList := rfl
  have keys : ["height", "href", "width", "x", "y"].map (fun key => Text.sameFolded (localName key.toList) "href".toList) =
      [false, true, false, false, false] := by decide
  simp only [List.map_cons, List.map_nil, List.cons.injEq] at keys
  rw [← dataAddress, ← same]
  simp only [picture, Drawing.attributes, List.map_cons, List.map_nil, List.filter_cons, List.filter_nil, called, keys,
    Bool.false_eq_true, if_false, if_true]
  rfl

variable (backgroundPlain : '"' ∉ background.display.toList) (inkPlain : '"' ∉ ink.display.toList)
include backgroundPlain inkPlain

theorem isProper_sheet : (sheet layout (parts layout config background ink title drawing)).IsProper := by
  refine .element (isProperTag_sheet layout (parts layout config background ink title drawing)) ?_
  simp only [parts, List.forall_mem_cons, List.not_mem_nil, false_imp_iff, implies_true, and_true]
  refine ⟨.element (isProperTag_backdrop layout backgroundPlain) nofun, .element ?_ ?_,
    .element (isProperTag_picture layout drawing) nofun⟩
  · exact isProperTag_heading layout config title inkPlain
  · intro child member
    rw [List.mem_singleton.mp member]
    exact .text _

theorem shows_document : (document layout config background ink title drawing).Shows (shown title) drawing where
  names := rfl
  attributes := by
    simp only [Document.tags, document, List.forall_mem_cons, List.not_mem_nil, false_imp_iff, implies_true, and_true]
    exact ⟨⟨_, attributes_tag (isProperTag_sheet layout _)⟩,
      ⟨_, attributes_tag (isProperTag_backdrop layout backgroundPlain)⟩,
      ⟨_, attributes_tag (isProperTag_heading layout config title inkPlain)⟩,
      ⟨_, attributes_tag (isProperTag_picture layout drawing)⟩⟩
  title := characters?_withChars _
  drawing := embeds_document layout config title drawing

theorem read_sheet :
    read (sheet layout (parts layout config background ink title drawing)).render =
      ⟨(document layout config background ink title drawing).events, none⟩ := by
  have proper := isProper_sheet layout config title drawing backgroundPlain inkPlain
  rw [← before_sheet]
  exact read_render proper

end Sheet

/-! ## Whole exports -/

theorem compose_of_ok {markup title : String} {size : Size} {time : Timestamp} {config : CanvasConfig}
    {background ink : Color} {drawing : List Char} (backgroundRead : config.background = .ok background)
    (inkRead : config.titleInk = .ok ink) (cleaned : clean markup.toList = .ok drawing) :
    compose markup title size time config = .ok
      ⟨FileName.ofImage title time,
        (sheet (Layout.ofSize size config)
          (parts (Layout.ofSize size config) config background ink title drawing)).render,
        Layout.ofSize size config⟩ := by
  simp only [compose, backgroundRead, inkRead, cleaned, parts]

/-- A drawing is composed just where both colors and the markup are accepted; what is wrong with the background
    is said first, and what is wrong with the markup last. What is composed is read without a fault as a
    document that shows the title, or what stands for it, and holds the cleaned drawing. -/
theorem compose_reread (markup title : String) (size : Size) (time : Timestamp) (config : CanvasConfig) :
    match config.background, config.titleInk, clean markup.toList with
    | .error fault, _, _ => compose markup title size time config = .error (.style fault)
    | .ok _, .error fault, _ => compose markup title size time config = .error (.style fault)
    | .ok _, .ok _, .error fault => compose markup title size time config = .error (.markup fault)
    | .ok _, .ok _, .ok drawing =>
      ∃ e d, compose markup title size time config = .ok e ∧ read e.svg = ⟨Document.events d, none⟩ ∧
        d.Shows (if title = "" then "Diagram".toList else title.toList) drawing := by
  rcases background : config.background with fault | backgroundColor
  · simp only [compose, background]
  · rcases ink : config.titleInk with fault | inkColor
    · simp only [compose, background, ink]
    · rcases cleaned : clean markup.toList with fault | drawing
      · simp only [compose, background, ink, cleaned]
      · have backgroundPlain := noQuote_color background
        have inkPlain := noQuote_color ink
        let layout := Layout.ofSize size config
        rw [← shown_eq]
        exact ⟨_, document layout config backgroundColor inkColor title drawing, compose_of_ok background ink cleaned,
          read_sheet layout config title drawing backgroundPlain inkPlain,
          shows_document layout config title drawing backgroundPlain inkPlain⟩

end DiagramStudio.Export
