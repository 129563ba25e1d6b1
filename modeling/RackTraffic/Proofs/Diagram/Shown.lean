import RackTraffic.Proofs.Diagram.Canvas
import RackTraffic.Proofs.Diagram.Rejected
import RackTraffic.Proofs.Diagram.Svg

/-!
# What diagrams show

A diagram is drawn in two loops. The first goes through the flows and leaves out those that lead to
their own rack; for each other it draws a shaft and a head (`Diagram.exists_arrows`, by induction on
the flows). The second draws a dot for each rack. Before them the canvas is made, and that fails
just if one of its exact sides does not fit in 32 bits
(`AllocationLog.diagram_eq_beyondLimits_iff`).

**Theorem (`AllocationLog.diagram_shows`).** If the racks of an allocation exist and the canvas fits
in 32 bits, then there is a diagram. It shows every flow between different racks by an arrow, in the
order of the log and in the style of its link, and then every rack by a dot. Nothing else is in its
text besides the background, so its elements can be counted.
-/

namespace RackTraffic

variable {rackCount : UInt64} {layout : Layout} {log : AllocationLog}
  {flows : List AllocatedFlow} {allocated : AllocatedFlow}

/-! ## The style of arrows -/

/-- The flows that lead to another rack. -/
def leaving (flows : List AllocatedFlow) : List AllocatedFlow :=
  flows.filter fun allocated => allocated.flow.source ≠ allocated.flow.destination

/-- The colour and the width in which flows are drawn: wireless ones in thick blue, wired ones in
thin grey, and all others in red. -/
inductive Link.HasStyle : Link → (colour : String) → (width : Nat) → Prop where
  | wireless : HasStyle .wireless "#0000FF" 3
  | wired : HasStyle .wired "#969696" 1
  | unknown (code : UnknownCode) : HasStyle (.unknown code) "#FF0000" 2

theorem Link.hasStyle_stroke (link : Link) :
    link.HasStyle link.stroke.colour link.stroke.width := by
  cases link with
  | wireless => exact .wireless
  | wired => exact .wired
  | unknown code => exact .unknown code

theorem Link.notMem_colour (link : Link) : '<' ∉ link.stroke.colour.toList := by
  cases link <;> simp [Link.stroke]

namespace Diagram

/-- An arrow for a flow, in the style of its link: a shaft, and a head at its tip. -/
structure IsArrow (d : Diagram) (layout : Layout) (allocated : AllocatedFlow)
    (arrow : SvgElement × SvgElement) : Prop where
  shaft : arrow.1.name = "polyline"
  head : arrow.2.name = "polygon"
  style : ∃ colour width, allocated.link.HasStyle colour width ∧
    arrow.1.attribute? "stroke" = some colour ∧
    arrow.1.attribute? "stroke-width" = some (toString width) ∧
    arrow.2.attribute? "fill" = some colour
  points : ∃ tail tip left right,
    Arrow.between layout allocated.flow.source.index.toNat allocated.flow.destination.index.toNat =
      ⟨tail, tip, left, right⟩ ∧
    arrow.1.attribute? "points" = some (d.pointsText [tail, tip]) ∧
    arrow.2.attribute? "points" = some (d.pointsText [tip, left, right])

/-- A dot for a rack. -/
structure IsDot (d : Diagram) (layout : Layout) (rack : Nat) (dot : SvgElement) : Prop where
  name : dot.name = "circle"
  centre : ∃ x y, layout.point rack = (x, y) ∧
    dot.attribute? "cx" = some (toString (clamp (Arrow.pixel (.ofNat x) (.ofNat y)).x d.width)) ∧
    dot.attribute? "cy" = some (toString (clamp (Arrow.pixel (.ofNat x) (.ofNat y)).y d.height))

/-- A drawing of some flows and racks. -/
structure Shows (d : Diagram) (layout : Layout) (rackCount : Nat) (flows : List AllocatedFlow) :
    Prop where
  /-- The arrows come first, in the order of the flows, and then the dots. -/
  elements : ∃ arrows dots,
    d.svg.toList = svgText d.drawing
      (d.background :: ((arrows.flatMap fun arrow => [arrow.1, arrow.2]) ++ dots)) ∧
    List.Forall₂ (d.IsArrow layout) (leaving flows) arrows ∧
    List.Forall₂ (d.IsDot layout) (List.range rackCount) dots
  /-- The text has no other elements. -/
  names : tagNames d.svg.toList =
    "svg" :: "rect" :: ((leaving flows).flatMap fun _ => ["polyline", "polygon"]) ++
      List.replicate rackCount "circle" ++ ["/svg"]

variable (d : Diagram)

/-! ## The loop over the flows -/

theorem flowElements_of_loop (h : allocated.flow.source = allocated.flow.destination) :
    flowElements layout allocated = [] := if_pos h

theorem exists_arrow (layout : Layout)
    (h : allocated.flow.source ≠ allocated.flow.destination) :
    ∃ arrow, (flowElements layout allocated).map d.svgElement = [arrow.1, arrow.2] ∧
      d.IsArrow layout allocated arrow ∧ arrow.1.IsClean ∧ arrow.2.IsClean := by
  rw [flowElements, if_neg h]
  rcases harrow : Arrow.between layout allocated.flow.source.index.toNat
    allocated.flow.destination.index.toNat with ⟨tail, tip, left, right⟩
  have hcolour := allocated.link.notMem_colour
  refine ⟨(_, _), rfl, ?_, d.isClean_svgElement (.shaft _ tail tip) hcolour,
    d.isClean_svgElement (.head _ tip left right) hcolour⟩
  exact {
    shaft := rfl
    head := rfl
    style := ⟨_, _, allocated.link.hasStyle_stroke, rfl, rfl, rfl⟩
    points := ⟨tail, tip, left, right, harrow, rfl, rfl⟩ }

/-- Each flow to another rack is drawn as an arrow, and the others are left out. -/
theorem exists_arrows (layout : Layout) (flows : List AllocatedFlow) :
    ∃ arrows, (flows.flatMap (flowElements layout)).map d.svgElement =
        arrows.flatMap (fun arrow => [arrow.1, arrow.2]) ∧
      List.Forall₂ (d.IsArrow layout) (leaving flows) arrows ∧
      ∀ arrow ∈ arrows, arrow.1.IsClean ∧ arrow.2.IsClean := by
  induction flows with
  | nil => exact ⟨[], rfl, .nil, nofun⟩
  | cons allocated flows ih =>
    obtain ⟨arrows, helements, harrows, hclean⟩ := ih
    rw [List.flatMap_cons, List.map_append, helements, leaving]
    by_cases h : allocated.flow.source = allocated.flow.destination
    · rw [flowElements_of_loop h, List.filter_cons_of_neg (by simpa using h)]
      exact ⟨arrows, rfl, harrows, hclean⟩
    · obtain ⟨arrow, helement, harrow, harrowClean⟩ := d.exists_arrow layout h
      rw [helement, List.filter_cons_of_pos (by simpa using h)]
      exact ⟨arrow :: arrows, rfl, .cons harrow harrows,
        List.forall_mem_cons.mpr ⟨harrowClean, hclean⟩⟩

/-! ## The loop over the racks -/

theorem isDot_rackElement (layout : Layout) (rack : Nat) :
    d.IsDot layout rack (d.svgElement (rackElement layout rack)) where
  name := rfl
  centre := ⟨_, _, rfl, rfl, rfl⟩

theorem isClean_rackElement (layout : Layout) (rack : Nat) :
    (d.svgElement (rackElement layout rack)).IsClean :=
  d.isClean_svgElement _ (by simp [rackElement, Element.colour])

/-! ## Names -/

variable {d}

theorem names_of_isArrow {arrows : List (SvgElement × SvgElement)}
    (h : List.Forall₂ (d.IsArrow layout) flows arrows) :
    (arrows.flatMap fun arrow => [arrow.1, arrow.2]).map SvgElement.name =
      flows.flatMap fun _ => ["polyline", "polygon"] := by
  rw [List.map_flatMap]
  exact flatMap_eq_flatMap_of_forall₂ h fun _ _ harrow => by simp [harrow.shaft, harrow.head]

theorem names_of_isDot {racks : List Nat} {dots : List SvgElement}
    (h : List.Forall₂ (d.IsDot layout) racks dots) :
    dots.map SvgElement.name = List.replicate racks.length "circle" := by
  rw [map_eq_map_of_forall₂ h fun _ _ hdot => hdot.name, List.map_const']

/-- The elements of some flows and racks show them. -/
theorem shows_of_elements {racks : Nat}
    (h : d.elements = elementsOf layout racks flows) : d.Shows layout racks flows := by
  obtain ⟨arrows, helements, harrows, hclean⟩ := d.exists_arrows layout flows
  have hdots : List.Forall₂ (d.IsDot layout) (List.range racks)
      (((List.range racks).map (rackElement layout)).map d.svgElement) := by
    rw [List.map_map, List.forall₂_map_right_iff, List.forall₂_same]
    exact fun rack _ => d.isDot_rackElement layout rack
  have hsvg := d.svg_eq
  rw [h, elementsOf, List.map_append, helements] at hsvg
  refine ⟨⟨arrows, _, hsvg, harrows, hdots⟩, ?_⟩
  rw [hsvg, tagNames_svgText d.isClean_drawing, List.map_cons, List.map_append,
    names_of_isArrow harrows, names_of_isDot hdots, List.length_range]
  · rfl
  · -- No attribute has a tag in it.
    simp only [List.forall_mem_cons, List.forall_mem_append, List.forall_mem_map]
    refine ⟨d.isClean_background, fun e he => ?_, fun rack _ => d.isClean_rackElement layout rack⟩
    obtain ⟨arrow, harrow, he⟩ := List.mem_flatMap.mp he
    simp only [List.mem_cons, List.not_mem_nil, or_false] at he
    rcases he with rfl | rfl
    · exact (hclean arrow harrow).1
    · exact (hclean arrow harrow).2

end Diagram

/-- As long as the racks can be counted in 32 bits, a canvas is refused for its exact sides only,
and only after all racks have been found. -/
theorem AllocationLog.diagram_eq_beyondLimits_iff (hrows : layout.racksPerRow ≠ 0)
    (hracks : rackCount.toNat < UInt32.size) :
    log.diagram rackCount layout = .error .beyondLimits ↔
      (∀ allocated ∈ log.flows, allocated.flow.Within rackCount) ∧
        (UInt32.size ≤ layout.exactWidth rackCount.toNat ∨
          UInt32.size ≤ layout.exactHeight rackCount.toNat) := by
  have hcanvas : layout.canvas? rackCount.toNat = none ↔
      UInt32.size ≤ layout.exactWidth rackCount.toNat ∨
        UInt32.size ≤ layout.exactHeight rackCount.toNat := by
    rw [← Layout.not_fits_iff, Layout.fits_iff hrows hracks]
    omega
  rw [diagram_eq hrows, ← hcanvas, ← checkRacks_eq_ok_iff]
  split
  · next hcheck => simp [hcheck]
  · next hcheck => split <;> simp [*]

/-- **A diagram shows every flow and every rack once.** If the racks of the flows exist and the
canvas fits, a diagram is made. Each flow to another rack has an arrow in it, in the order of the
log and in the style of its link. Flows from a rack to itself have none. Then each rack has a dot,
and there is nothing else besides the background. -/
theorem AllocationLog.diagram_shows (hrows : layout.racksPerRow ≠ 0)
    (hfits : layout.Fits rackCount.toNat)
    (hwithin : ∀ allocated ∈ log.flows, allocated.flow.Within rackCount) :
    ∃ diagram, log.diagram rackCount layout = .ok diagram ∧
      layout.canvas? rackCount.toNat = some (diagram.width, diagram.height) ∧
      diagram.Shows layout rackCount.toNat log.flows ∧
      (tagNames diagram.svg.toList).count "polyline" = (leaving log.flows).length ∧
      (tagNames diagram.svg.toList).count "polygon" = (leaving log.flows).length ∧
      (tagNames diagram.svg.toList).count "circle" = rackCount.toNat := by
  obtain ⟨⟨width, height⟩, hcanvas⟩ := hfits
  have hshows : (⟨width, height, Diagram.elementsOf layout rackCount.toNat log.flows⟩ :
      Diagram).Shows layout rackCount.toNat log.flows := Diagram.shows_of_elements rfl
  refine ⟨_, ?_, hcanvas, hshows, ?_⟩
  · rw [diagram_eq hrows, checkRacks_eq_ok_iff.mpr hwithin, hcanvas]
  · rw [hshows.names]
    simp [List.count_flatMap, List.count_replicate, Function.comp_def]

/-- Of three flows between two racks, the last leads to its own rack and is not drawn. -/
theorem AllocationLog.diagram_shows_crossed :
    Layout.Fits {} (2 : UInt64).toNat ∧
    (∀ allocated ∈ crossedFlows.flows, allocated.flow.Within 2) ∧
    ∃ diagram, crossedFlows.diagram 2 {} = .ok diagram ∧
      (diagram.width, diagram.height) = (240, 120) ∧
      tagNames diagram.svg.toList =
        ["svg", "rect", "polyline", "polygon", "polyline", "polygon", "circle", "circle",
          "/svg"] := by
  have hcanvas : Layout.canvas? {} (2 : UInt64).toNat = some (240, 120) := by decide +kernel
  have hwithin : ∀ allocated ∈ crossedFlows.flows, allocated.flow.Within 2 := by decide +kernel
  obtain ⟨diagram, hdiagram, hsize, hshows, -⟩ :=
    AllocationLog.diagram_shows (by decide) ⟨_, hcanvas⟩ hwithin
  refine ⟨⟨_, hcanvas⟩, hwithin, diagram, hdiagram, ?_, ?_⟩
  · rw [hcanvas] at hsize
    exact (Option.some.inj hsize).symm
  · rw [hshows.names]
    decide +kernel

end RackTraffic
