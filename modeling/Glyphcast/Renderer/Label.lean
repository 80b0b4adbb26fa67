import Glyphcast.Renderer

/-!
# Renderers for rehearsals

`LabelRenderer` names a frame instead of drawing it, so that it can be told which frame arrived
where. `TrippingRenderer` stands in front of another renderer and crashes at pictures that start
with a chosen byte.
-/

namespace Glyphcast

/-- A renderer that writes the first byte of the image and the size of the grid. -/
structure LabelRenderer where
  /-- The ramp last installed. -/
  ramp : Option String := none
  deriving DecidableEq, Repr

instance : FrameRenderer LabelRenderer where
  render _ image width height :=
    let pixel := (image.byte? 0).getD 0
    .ok ("frame " ++ toString pixel ++ " " ++ toString width.toNat ++ "x" ++
      toString height.toNat)
  setRamp _ ramp := ⟨some ramp⟩

/-- A renderer that crashes at images starting with a chosen byte. -/
structure TrippingRenderer (ρ : Type) where
  /-- The renderer for all other images. -/
  renderer : ρ
  /-- The first byte that it crashes at, if there is one. -/
  tripwire : Option Nat := none

instance {ρ : Type} [FrameRenderer ρ] : FrameRenderer (TrippingRenderer ρ) where
  render tripping image width height :=
    if tripping.tripwire.isSome ∧ tripping.tripwire = image.byte? 0 then
      .error (.saying "renderer fault")
    else FrameRenderer.render tripping.renderer image width height
  setRamp tripping ramp :=
    { tripping with renderer := FrameRenderer.setRamp tripping.renderer ramp }

end Glyphcast
