import RackTraffic.Diagram.Element
import RackTraffic.Proofs.Lists
import RackTraffic.Proofs.Text.Integer
import RackTraffic.Text.Lines

/-!
# SVG texts

A diagram is written as elements without content, between the tags of the drawing
(`Diagram.svg_eq`). Every element has a name and attributes.

Which elements there are can also be seen in the text alone: a name follows every `<` (`tagNames`).
In the text of elements whose names and attributes have no `<` in them, these are the names of the
elements (`tagNames_svgText`).
-/

namespace RackTraffic

/-- An element without content. -/
structure SvgElement where
  name : String
  attributes : List (String × String)

namespace SvgElement

/-- The value of an attribute. -/
def attribute? (e : SvgElement) (key : String) : Option String := e.attributes.lookup key

/-- An attribute as it stands in a tag. -/
def attributeText (key value : String) : List Char :=
  ' ' :: (key.toList ++ '=' :: '"' :: (value.toList ++ ['"']))

/-- What stands in the tag of an element. -/
def inside (e : SvgElement) : List Char :=
  e.name.toList ++ e.attributes.flatMap fun (key, value) => attributeText key value

/-- The text of an element. -/
def text (e : SvgElement) : List Char := '<' :: (e.inside ++ ['/', '>'])

end SvgElement

/-- The text of a drawing with some elements in it. -/
def svgText (drawing : SvgElement) (elements : List SvgElement) : List Char :=
  Text.ofLines
    (('<' :: (drawing.inside ++ ['>'])) :: (elements.map SvgElement.text ++ ["</svg>".toList]))

/-! ## Names -/

/-- The characters after a name. -/
def nameEnds : List Char := [' ', '>']

/-- The names of the tags of a text. The name of an end tag starts with a slash. -/
def tagNames : List Char → List String
  | [] => []
  | c :: s =>
    if c = '<' then String.ofList (s.takeWhile (· ∉ nameEnds)) :: tagNames s else tagNames s

theorem tagNames_append {s : List Char} (h : '<' ∉ s) (t : List Char) :
    tagNames (s ++ t) = tagNames t := by
  induction s with
  | nil => rfl
  | cons c s ih =>
    obtain ⟨hc, hs⟩ := not_or.mp (mt List.mem_cons.mpr h)
    rw [List.cons_append, tagNames, if_neg (Ne.symm hc), ih hs]

/-- A line that starts with a tag and has no other tags. -/
structure IsTag (name : String) (line : List Char) : Prop where
  /-- A blank or the end of the tag follows its name. -/
  starts : ∃ c ∈ nameEnds, ∃ rest, '<' ∉ rest ∧ line = '<' :: (name.toList ++ c :: rest)
  name : ∀ c ∈ name.toList, c ∉ '<' :: nameEnds

theorem tagNames_of_isTag {name : String} {line : List Char} (h : IsTag name line)
    (t : List Char) : tagNames (line ++ '\n' :: t) = name :: tagNames t := by
  obtain ⟨⟨c, hc, rest, hrest, rfl⟩, hname⟩ := h
  have htake : (name.toList ++ c :: rest ++ '\n' :: t).takeWhile (· ∉ nameEnds) = name.toList := by
    rw [List.append_assoc]
    refine takeWhile_append_of_stop (fun x hx => ?_) fun x hx => ?_
    · simpa using List.not_mem_of_not_mem_cons (hname x hx)
    · cases hx
      simpa using hc
  have hline : '<' ∉ name.toList ++ c :: rest ++ ['\n'] := by
    have hends : '<' ∉ nameEnds := by decide
    have hmem : '<' ∉ name.toList := fun h => hname _ h List.mem_cons_self
    have hne : '<' ≠ c := fun heq => hends (heq ▸ hc)
    simp [hmem, hne, hrest]
  rw [List.cons_append, tagNames, if_pos rfl, htake, String.ofList_toList, List.append_cons,
    tagNames_append hline]

theorem tagNames_ofLines {names : List String} {lines : List (List Char)}
    (h : List.Forall₂ IsTag names lines) : tagNames (Text.ofLines lines) = names := by
  induction h with
  | nil => rfl
  | cons htag _ ih => rw [Text.ofLines_cons, tagNames_of_isTag htag, ih]

namespace SvgElement

/-- An element with attributes that has nothing in it that looks like a tag. -/
structure IsClean (e : SvgElement) : Prop where
  name : ∀ c ∈ e.name.toList, c ∉ '<' :: nameEnds
  attributes_ne_nil : e.attributes ≠ []
  attributes : ∀ a ∈ e.attributes, '<' ∉ a.1.toList ∧ '<' ∉ a.2.toList

theorem IsClean.isTag {e : SvgElement} (h : e.IsClean) {close : List Char} (hclose : '<' ∉ close) :
    IsTag e.name ('<' :: (e.inside ++ close)) := by
  obtain ⟨name, attributes⟩ := e
  obtain ⟨hname, hne, hattributes⟩ := h
  refine ⟨?_, hname⟩
  cases attributes with
  | nil => contradiction
  | cons a attributes =>
    have hclean : '<' ∉ (a :: attributes).flatMap fun (key, value) => attributeText key value := by
      simp only [List.mem_flatMap, not_exists, not_and]
      intro a ha
      simpa [attributeText] using hattributes a ha
    obtain ⟨rest, hrest⟩ : ∃ rest, ((a :: attributes).flatMap fun (key, value) =>
        attributeText key value) = ' ' :: rest := ⟨_, rfl⟩
    refine ⟨' ', by decide, rest ++ close, ?_, ?_⟩
    · rw [hrest] at hclean
      simpa [hclose] using hclean
    · rw [inside, hrest, List.append_assoc, List.cons_append]

end SvgElement

/-- The names in the text of a drawing are those of its elements, between its own. -/
theorem tagNames_svgText {drawing : SvgElement} {elements : List SvgElement}
    (hdrawing : drawing.IsClean) (helements : ∀ e ∈ elements, e.IsClean) :
    tagNames (svgText drawing elements) =
      drawing.name :: (elements.map SvgElement.name ++ ["/svg"]) := by
  have hend : IsTag "/svg" "</svg>".toList :=
    ⟨⟨'>', by decide, [], by decide, by decide⟩, by simp [nameEnds]⟩
  have htags : List.Forall₂ IsTag (elements.map SvgElement.name)
      (elements.map SvgElement.text) := by
    rw [List.forall₂_map_left_iff, List.forall₂_map_right_iff, List.forall₂_same]
    exact fun e he => (helements e he).isTag (by decide)
  exact tagNames_ofLines <| .cons (hdrawing.isTag (by decide)) <|
    List.rel_append htags (.cons hend .nil)

/-! ## Diagrams -/

/-- The colour of an element. -/
def Element.colour : Element → String
  | .shaft stroke _ _ => stroke.colour
  | .head colour _ _ _ => colour
  | .dot _ _ => "#000000"

namespace Diagram

variable (d : Diagram)

/-- The drawing itself. -/
def drawing : SvgElement :=
  let w := toString d.width.toNat
  let h := toString d.height.toNat
  { name := "svg"
    attributes := [("width", w), ("height", h), ("viewBox", "0 0 " ++ w ++ " " ++ h),
      ("xmlns", "http://www.w3.org/2000/svg")] }

/-- A white rectangle behind everything else. -/
def background : SvgElement where
  name := "rect"
  attributes := [("x", "0"), ("y", "0"), ("width", toString (reach d.width)),
    ("height", toString (reach d.height)), ("opacity", "1"), ("fill", "#FFFFFF"),
    ("stroke", "none")]

/-- Points as SVG writes them. -/
def pointsText (points : List Pixel) : String := String.join (points.map (d.pointText · ++ " "))

/-- An element of a diagram in SVG. -/
def svgElement : Element → SvgElement
  | .shaft stroke tail tip =>
    { name := "polyline"
      attributes := [("fill", "none"), ("opacity", "1"), ("stroke", stroke.colour),
        ("stroke-width", toString stroke.width),
        ("points", d.pointsText [tail, tip])] }
  | .head colour tip left right =>
    { name := "polygon"
      attributes := [("opacity", "1"), ("fill", colour),
        ("points", d.pointsText [tip, left, right])] }
  | .dot centre radius =>
    { name := "circle"
      attributes := [("cx", toString (clamp centre.x d.width)),
        ("cy", toString (clamp centre.y d.height)), ("r", toString (reach radius).toNat),
        ("opacity", "1"), ("fill", "#000000"), ("stroke", "none"), ("stroke-width", "1")] }

theorem toList_elementLine (element : Element) :
    (d.elementLine element).toList = (d.svgElement element).text := by
  unfold elementLine svgElement
  cases element <;> simp [SvgElement.text, SvgElement.inside, SvgElement.attributeText, pointsText]

/-- A diagram is written as its elements over the background. -/
theorem svg_eq :
    d.svg.toList = svgText d.drawing (d.background :: d.elements.map d.svgElement) := by
  have hlines : d.svg.toList = Text.ofLines (d.lines.map String.toList) := by
    simp [svg, Text.ofLines, List.flatMap_map]
  have helements : (d.elements.map d.elementLine).map String.toList =
      (d.elements.map d.svgElement).map SvgElement.text := by
    simp only [List.map_map]
    exact List.map_congr_left fun element _ => d.toList_elementLine element
  rw [hlines, svgText, lines, List.map_append, List.map_append, helements]
  simp [drawing, background, SvgElement.text, SvgElement.inside, SvgElement.attributeText]

/-! ### Nothing looks like a tag -/

@[simp] theorem notMem_digits (n : Nat) : '<' ∉ Nat.toDigits 10 n := fun h =>
  absurd (Integer.isDigit_of_mem_ofNat h) (by decide)

@[simp] theorem notMem_repr (n : Int) : '<' ∉ n.repr.toList := by
  rw [Int.repr_eq_if]
  split <;> simp

theorem notMem_pointText (p : Pixel) : '<' ∉ (d.pointText p).toList := by
  have hcomma : '<' ∉ (toString ",").toList := by decide
  simp [pointText, hcomma]

theorem notMem_pointsText (points : List Pixel) : '<' ∉ (d.pointsText points).toList := by
  simp [pointsText, notMem_pointText]

theorem isClean_drawing : d.drawing.IsClean where
  name := by simp [drawing, nameEnds]
  attributes_ne_nil := by simp [drawing]
  attributes := by simp [drawing]

theorem isClean_background : d.background.IsClean where
  name := by simp [background, nameEnds]
  attributes_ne_nil := by simp [background]
  attributes := by simp [background]

theorem isClean_svgElement (element : Element) (h : '<' ∉ element.colour.toList) :
    (d.svgElement element).IsClean := by
  cases element <;> rw [Element.colour] at h <;> constructor <;>
    simp [svgElement, nameEnds, h, notMem_pointsText]

end Diagram

end RackTraffic
