import DiagramStudio.Canvas.Layout
import DiagramStudio.Proofs.Markup.Extent
import DiagramStudio.Proofs.Number.Overflow

/-!
What is measured and laid out. The size of a drawing is positive, but it is finite only where the two numbers that it is
read from are: words for infinity are numbers too, and so is what is rounded to infinity (`Markup.Gives`). The layout of
a drawing under the default configuration is finite exactly if its size is (`Layout.isFinite_iff`).
-/

namespace DiagramStudio

open Number Number.Single

/-! ## Layouts -/

def Size.IsFinite (s : Size) : Prop := s.width.isFinite = true ∧ s.height.isFinite = true

def Point.IsFinite (p : Point) : Prop := p.x.isFinite = true ∧ p.y.isFinite = true

/-- The canvas is of finite size, and diagram and title lie at finite places on it. -/
structure Layout.IsFinite (l : Layout) : Prop where
  canvas : l.canvas.IsFinite
  origin : l.origin.IsFinite
  title : l.title.IsFinite

namespace Number.Single

variable {x y : Float32}

theorem isNaN_of_pos (positive : 0 < x) : isNaN x = false := (isNaN_of_le (le_of_lt positive)).2

theorem compare_zero_ne_lt {u : Float.Model.UnpackedFloat} (positive : isPositive u = true) :
    u.compare (.zero .positive) ≠ some .lt := by
  rcases u with (_ | _) | _ | _ | ⟨_ | _, _, _, _⟩
  case infinity.positive => nofun
  case finite.positive => nofun
  all_goals cases positive

theorem greater_zero (positive : 0 < x) : greater x 0 = x := by
  have notBelow : ¬x < 0 := by
    have zero : (0 : Float32).toModel.unpack = .zero .positive := rfl
    rw [lt_iff, zero]
    exact compare_zero_ne_lt (pos_iff.mp positive)
  rw [greater, if_neg (by simp [isNaN_of_pos positive]), if_neg notBelow]

theorem isFinite_greater (finite : x.isFinite = true) (finite' : y.isFinite = true) :
    (greater x y).isFinite = true := by
  unfold greater
  split
  · exact finite'
  · split
    · exact finite'
    · exact finite

/-- Nothing is greater than infinity. -/
theorem greater_of_infinite (infinite : x.toModel.unpack = .infinity .positive) (y : Float32) : greater x y = x := by
  have number : isNaN x = false := by
    rw [← Bool.not_eq_true, isNaN_iff, infinite]
    nofun
  have notBelow : ¬x < y := by
    rw [lt_iff, infinite]
    rcases y.toModel.unpack with (_ | _) | _ | _ | ⟨_ | _, _, _, _⟩ <;> nofun
  rw [greater, if_neg (by simp [number]), if_neg notBelow]

/-- Infinity with a finite number is infinity again. -/
theorem add_of_infinite (infinite : x.toModel.unpack = .infinity .positive) (finite : y.isFinite = true) :
    (x + y).toModel.unpack = .infinity .positive := by
  have finite : y.toModel.unpack.isFinite = true := finite
  show (Float32.Model.pack (Float.Model.UnpackedFloat.add .binary32 x.toModel.unpack y.toModel.unpack)).unpack = _
  have sum : Float.Model.UnpackedFloat.add .binary32 (.infinity .positive) y.toModel.unpack = .infinity .positive := by
    generalize y.toModel.unpack = u at finite
    cases u with
    | infinity s => cases finite
    | notANumber => cases finite
    | zero s => rfl
    | finite s m e positive => rfl
  rw [infinite, sum]
  rfl

/-- The difference of two infinities is no number, and neither is its half. -/
theorem isNaN_half_sub_of_infinite (infinite : x.toModel.unpack = .infinity .positive)
    (infinite' : y.toModel.unpack = .infinity .positive) : isNaN ((x - y) / 2) = true := by
  have difference : (x - y).toModel.unpack = .notANumber := by
    show (Float32.Model.pack (Float.Model.UnpackedFloat.sub .binary32 x.toModel.unpack y.toModel.unpack)).unpack = _
    rw [infinite, infinite']
    rfl
  rw [isNaN_iff]
  show (Float32.Model.pack (Float.Model.UnpackedFloat.div .binary32 (x - y).toModel.unpack _)).unpack = _
  rw [difference]
  rfl

end Number.Single

/-- A drawing of positive size has a finite layout exactly if its size is finite. -/
theorem Layout.isFinite_iff {size : Size} (wide : 0 < size.width) (high : 0 < size.height) :
    (Layout.ofSize size {}).IsFinite ↔ size.IsFinite := by
  obtain ⟨width, height⟩ := size
  have laid : Layout.ofSize ⟨width, height⟩ {} =
      { canvas := ⟨greater (width + 40) 400, height + 80 + 40⟩
        diagram := ⟨width, height⟩
        origin := ⟨(greater (width + 40) 400 - width) / 2, 80⟩
        title := ⟨greater (width + 40) 400 / 2, 50⟩
        pixels := Size.scale ⟨greater (width + 40) 400, height + 80 + 40⟩ 5 } := by
    simp only [Layout.ofSize, greater_zero wide, greater_zero high]
  rw [laid]
  have forty : (40 : Float32).isFinite = true := by decide +kernel
  have fifty : (50 : Float32).isFinite = true := by decide +kernel
  have eighty : (80 : Float32).isFinite = true := by decide +kernel
  constructor
  · rintro ⟨⟨canvasWidth, canvasHeight⟩, _, _⟩
    refine ⟨?_, isFinite_of_add (isFinite_of_add canvasHeight)⟩
    refine Bool.eq_false_imp_eq_true.mp fun infinite => ?_
    have infinite := add_of_infinite (unpack_of_infinite wide infinite) forty
    have canvasWidth : (greater (width + 40) 400).isFinite = true := canvasWidth
    rw [greater_of_infinite infinite] at canvasWidth
    have canvasWidth : (width + 40).toModel.unpack.isFinite = true := canvasWidth
    rw [infinite] at canvasWidth
    cases canvasWidth
  · rintro ⟨finiteWidth, finiteHeight⟩
    have canvasWidth : (greater (width + 40) 400).isFinite = true :=
      isFinite_greater (isFinite_add finiteWidth forty (by decide +kernel)) (by decide +kernel)
    have canvasHeight : (height + 80 + 40).isFinite = true :=
      isFinite_add (isFinite_add finiteHeight eighty (by decide +kernel)) forty (by decide +kernel)
    have positive : 0 < greater (width + 40) 400 :=
      pos_of_le (by decide +kernel) (le_greater (width + 40) (by decide +kernel : isNaN 400 = false))
    exact ⟨⟨canvasWidth, canvasHeight⟩,
      ⟨isFinite_half (isFinite_sub canvasWidth finiteWidth positive wide), eighty⟩,
      ⟨isFinite_half canvasWidth, fifty⟩⟩

/-- The diagram has no place on the canvas that is wide enough for an infinite one. -/
theorem Layout.isNaN_origin {size : Size} (wide : 0 < size.width) (infinite : size.width.isFinite = false) :
    isNaN (Layout.ofSize size {}).origin.x = true := by
  have origin : (Layout.ofSize size {}).origin.x = (greater (size.width + 40) 400 - size.width) / 2 := by
    simp only [Layout.ofSize, greater_zero wide]
  have infinite := unpack_of_infinite wide infinite
  have canvas := add_of_infinite infinite (by decide +kernel : (40 : Float32).isFinite = true)
  rw [origin, greater_of_infinite canvas]
  exact isNaN_half_sub_of_infinite canvas infinite

/-! ## What is read -/

namespace Markup

/-- What stands of a length in front of its unit, if it has one. -/
def withoutUnit (value : List Char) : List Char :=
  Text.trim ((Text.dropBack? "px".toList (Text.trim value)).getD (Text.trim value))

/-- What the size of an element is read from: the last two of four numbers in its view box, or where that gives no size
    the numbers that its width and its height begin with. -/
inductive Gives (attributes : List Attribute) (width height : Literal) : Prop
  | viewBox {value : List Char} {x y : Literal} (box : valueOf? attributes "viewBox" = some value)
      (numbers : (Text.words endsNumber value).mapM Literal.read? = some [x, y, width, height])
  | lengths {wide high : List Char} (noBox : (valueOf? attributes "viewBox").bind viewBoxSize? = none)
      (hasWidth : valueOf? attributes "width" = some wide) (width_ : Literal.read? (withoutUnit wide) = some width)
      (hasHeight : valueOf? attributes "height" = some high) (height_ : Literal.read? (withoutUnit high) = some height)

theorem exists_literals {words : List (List Char)} {values : List Float32} (read_ : words.mapM single? = some values) :
    ∃ literals, words.mapM Literal.read? = some literals ∧ literals.map Literal.toSingle = values := by
  induction words generalizing values with
  | nil =>
    cases read_
    exact ⟨[], rfl, rfl⟩
  | cons word more ih =>
    simp only [List.mapM_cons, Option.bind_eq_bind, Option.bind_eq_some_iff, single?, Option.map_eq_some_iff] at read_
    obtain ⟨_, ⟨literal, spelled, rfl⟩, others, behind, same⟩ := read_
    obtain ⟨literals, readMore, rfl⟩ := ih behind
    cases same
    refine ⟨literal :: literals, ?_, rfl⟩
    simp [List.mapM_cons, spelled, readMore]

theorem exists_literal_of_length? {value : List Char} {length : Float32} (read_ : length? value = some length) :
    0 < length ∧ ∃ literal, Literal.read? (withoutUnit value) = some literal ∧ literal.toSingle = length := by
  obtain ⟨spelled, positive⟩ := Option.filter_eq_some_iff.mp read_
  exact ⟨by simpa using positive, Option.map_eq_some_iff.mp spelled⟩

theorem gives_of_viewBoxSize? {attributes : List Attribute} {value : List Char} {size : Size}
    (box : valueOf? attributes "viewBox" = some value) (given : viewBoxSize? value = some size) :
    (0 < size.width ∧ 0 < size.height) ∧
      ∃ width height, Gives attributes width height ∧ size = ⟨width.toSingle, height.toSingle⟩ := by
  unfold viewBoxSize? at given
  split at given
  · next x y w h read_ =>
    split at given
    · next positive =>
      cases given
      obtain ⟨literals, spelled, values⟩ := exists_literals read_
      match literals, values with
      | [x', y', width, height], rfl => exact ⟨positive, width, height, .viewBox box spelled, rfl⟩
    · cases given
  · cases given

theorem gives_of_sizeOf? {attributes : List Attribute} {size : Size} (given : sizeOf? attributes = some size) :
    (0 < size.width ∧ 0 < size.height) ∧
      ∃ width height, Gives attributes width height ∧ size = ⟨width.toSingle, height.toSingle⟩ := by
  unfold sizeOf? at given
  rcases fromBox : (valueOf? attributes "viewBox").bind viewBoxSize? with _ | boxed
  · rw [fromBox] at given
    simp only [Option.none_or, Option.bind_eq_bind, Option.bind_eq_some_iff] at given
    obtain ⟨w, ⟨wide, hasWidth, readWidth⟩, h, ⟨high, hasHeight, readHeight⟩, same⟩ := given
    cases same
    obtain ⟨positive, width, width_, rfl⟩ := exists_literal_of_length? readWidth
    obtain ⟨positive', height, height_, rfl⟩ := exists_literal_of_length? readHeight
    exact ⟨⟨positive, positive'⟩, width, height, .lengths fromBox hasWidth width_ hasHeight height_, rfl⟩
  · rw [fromBox] at given
    cases given
    obtain ⟨value, box, given⟩ := Option.bind_eq_some_iff.mp fromBox
    exact gives_of_viewBoxSize? box given

theorem tag_of_extent {s : List Char} {size : Size} (measured : extent s = .ok size) :
    ∃ tag attributes, (read s).events.findSome? Event.tag? = some tag ∧ tag.attributes = .ok attributes ∧
      sizeOf? attributes = some size := by
  cases first : (read s).events.findSome? Event.tag? with
  | none =>
    simp only [extent, first] at measured
    split at measured <;> cases measured
  | some tag =>
    rw [extent_of_first first, Tag.extent] at measured
    split at measured
    · next attributes read_ =>
      split at measured
      · next given =>
        cases measured
        exact ⟨tag, attributes, rfl, read_, given⟩
      · cases measured
    · cases measured

/-- Whenever a size is measured, its width and its height are greater than zero, and so they are numbers; they are read
    from two literals in the first tag. Each is finite exactly if its literal spells a number below the limit, and the
    canvas is of finite size, with diagram and title at finite places on it, exactly if both do. -/
theorem measured_size {s : List Char} {size : Size} (measured : extent s = .ok size) :
    0 < size.width ∧ 0 < size.height ∧ isNaN size.width = false ∧ isNaN size.height = false ∧
    ∃ tag attributes width height, (read s).events.findSome? Event.tag? = some tag ∧ tag.attributes = .ok attributes ∧
      Gives attributes width height ∧ size = ⟨width.toSingle, height.toSingle⟩ ∧
      (size.width.isFinite = true ↔ width.IsBelowLimit) ∧ (size.height.isFinite = true ↔ height.IsBelowLimit) ∧
      ((Layout.ofSize size {}).IsFinite ↔ width.IsBelowLimit ∧ height.IsBelowLimit) := by
  obtain ⟨tag, attributes, first, read_, given⟩ := tag_of_extent measured
  obtain ⟨⟨wide, high⟩, width, height, gives, rfl⟩ := gives_of_sizeOf? given
  refine ⟨wide, high, isNaN_of_pos wide, isNaN_of_pos high, tag, attributes, width, height, first, read_, gives, rfl,
    width.isFinite_toSingle, height.isFinite_toSingle, ?_⟩
  rw [Layout.isFinite_iff wide high]
  exact and_congr width.isFinite_toSingle height.isFinite_toSingle

theorem exists_ok_of_toOption {α β γ : Type} {x : Except α β} {f : β → γ} {c : γ}
    (same : x.toOption.map f = some c) : ∃ b, x = .ok b ∧ f b = c := by
  obtain ⟨b, some_, same⟩ := Option.map_eq_some_iff.mp same
  exact ⟨b, eq_ok_of_toOption some_, same⟩

/-- Lengths with a unit, a sign and exponents, one of them close to the limit, beside a view box that gives no size. -/
theorem measured_size_close_to_limit :
    ∃ size, extent "<svg width=' 34e37 px' viewBox='0 0 nan' height='+.5e1'/>".toList = .ok size ∧
      0 < size.width ∧ 0 < size.height ∧ size.IsFinite ∧ (Layout.ofSize size {}).IsFinite := by
  have some_ : (extent "<svg width=' 34e37 px' viewBox='0 0 nan' height='+.5e1'/>".toList).toOption.map
      (fun _ => ()) = some () := by decide +kernel
  obtain ⟨size, measured, -⟩ := exists_ok_of_toOption some_
  obtain ⟨wide, high, _, _, tag, attributes, width, height, first, read_, gives, _, finite, finite', laidOut⟩ :=
    measured_size measured
  have tag_ : (read "<svg width=' 34e37 px' viewBox='0 0 nan' height='+.5e1'/>".toList).events.findSome? Event.tag? =
      some ⟨"svg".toList, " width=' 34e37 px' viewBox='0 0 nan' height='+.5e1'".toList⟩ := by decide +kernel
  obtain rfl := Option.some.inj (first.symm.trans tag_)
  have attributes_ : (Tag.mk "svg".toList " width=' 34e37 px' viewBox='0 0 nan' height='+.5e1'".toList).attributes =
      .ok [⟨"width".toList, " 34e37 px".toList⟩, ⟨"viewBox".toList, "0 0 nan".toList⟩,
        ⟨"height".toList, "+.5e1".toList⟩] := eq_ok_of_toOption (by decide +kernel)
  obtain rfl := Except.ok.inj (read_.symm.trans attributes_)
  have below : (Literal.finite false 34 37).IsBelowLimit := by unfold Literal.IsBelowLimit; decide +kernel
  have below' : (Literal.finite false 5 0).IsBelowLimit := by unfold Literal.IsBelowLimit; decide +kernel
  cases gives with
  | viewBox box numbers =>
    obtain rfl := Option.some.inj (box.symm.trans (show _ = some "0 0 nan".toList by decide +kernel))
    have three : ((Text.words endsNumber "0 0 nan".toList).mapM Literal.read?).map List.length = some 3 := by
      decide +kernel
    rw [numbers] at three
    cases three
  | lengths _ hasWidth width_ hasHeight height_ =>
    obtain rfl := Option.some.inj (hasWidth.symm.trans (show _ = some " 34e37 px".toList by decide +kernel))
    obtain rfl := Option.some.inj (hasHeight.symm.trans (show _ = some "+.5e1".toList by decide +kernel))
    obtain rfl := Option.some.inj (width_.symm.trans (show _ = some (.finite false 34 37) by decide +kernel))
    obtain rfl := Option.some.inj (height_.symm.trans (show _ = some (.finite false 5 0) by decide +kernel))
    exact ⟨size, measured, wide, high, ⟨finite.mpr below, finite'.mpr below'⟩, laidOut.mpr ⟨below, below'⟩⟩

/-- A view box may give infinity by its word, and a length by a number that is rounded to it. -/
theorem not_isFinite_of_infinity :
    (∃ size, extent "<svg viewBox=\"0 0 inf 10\"/>".toList = .ok size ∧ size.width.isFinite = false ∧
      ¬(Layout.ofSize size {}).IsFinite ∧ isNaN (Layout.ofSize size {}).origin.x = true) ∧
    ∃ size, extent "<svg width=\"1e39px\" height=\"10\"/>".toList = .ok size ∧ size.width.isFinite = false ∧
      ¬(Layout.ofSize size {}).IsFinite ∧ isNaN (Layout.ofSize size {}).origin.x = true := by
  have exceptional {s : List Char} (widths : (extent s).toOption.map (·.width.isFinite) = some false) :
      ∃ size, extent s = .ok size ∧ size.width.isFinite = false ∧
        ¬(Layout.ofSize size {}).IsFinite ∧ isNaN (Layout.ofSize size {}).origin.x = true := by
    obtain ⟨size, measured, infinite⟩ := exists_ok_of_toOption widths
    obtain ⟨tag, attributes, _, _, given⟩ := tag_of_extent measured
    obtain ⟨⟨wide, high⟩, _⟩ := gives_of_sizeOf? given
    have origin := Layout.isNaN_origin wide infinite
    refine ⟨size, measured, infinite, fun laidOut => ?_, origin⟩
    rw [((Layout.isFinite_iff wide high).mp laidOut).1] at infinite
    cases infinite
  exact ⟨exceptional (by decide +kernel), exceptional (by decide +kernel)⟩

end Markup

end DiagramStudio
