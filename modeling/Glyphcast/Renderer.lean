import Glyphcast.Device

/-!
# Renderers

A renderer turns an image into text of a given grid size. Like a device it is any type with the
right operations, and like a device it may crash.
-/

namespace Glyphcast

/-- Something that turns images into text. -/
class FrameRenderer (ρ : Type) where
  /-- Render an image on a grid of this width and height. -/
  render : ρ → Image → UInt32 → UInt32 → Except Crash String
  /-- Replace the characters that the picture is drawn with, darkest first. -/
  setRamp : ρ → String → ρ

/-- A renderer of one of two kinds. -/
instance {ρ σ : Type} [FrameRenderer ρ] [FrameRenderer σ] : FrameRenderer (ρ ⊕ σ) where
  render renderer image width height := match renderer with
    | .inl r => FrameRenderer.render r image width height
    | .inr r => FrameRenderer.render r image width height
  setRamp renderer ramp := match renderer with
    | .inl r => .inl (FrameRenderer.setRamp r ramp)
    | .inr r => .inr (FrameRenderer.setRamp r ramp)

end Glyphcast
