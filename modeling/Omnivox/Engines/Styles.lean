import Mathlib

/-!
# Voice styles

Two sets of portable style dimensions: ACSS values that an engine applies, and effects
applied to the returned audio. Values are finite and exact. What an engine cannot apply is
omitted and recorded.
-/

set_option autoImplicit false

namespace Omnivox.Engines

/-- Clamp into the normalized range. A finite `f32` is the exact number it stands for. -/
def clampNormalized (value : ℚ) : ℚ := max 0 (min value 1)

/-- A normalized ACSS style. -/
structure NormalizedAcss where
  rate : Option ℚ
  averagePitch : Option ℚ
  pitchRange : Option ℚ
  stress : Option ℚ
  richness : Option ℚ
  volume : Option ℚ
  deriving Repr, DecidableEq

/-- Clamp all present values into the normalized range. -/
def NormalizedAcss.clamped (acss : NormalizedAcss) : NormalizedAcss where
  rate := acss.rate.map clampNormalized
  averagePitch := acss.averagePitch.map clampNormalized
  pitchRange := acss.pitchRange.map clampNormalized
  stress := acss.stress.map clampNormalized
  richness := acss.richness.map clampNormalized
  volume := acss.volume.map clampNormalized

/-- Engine-independent effects applied after synthesis. -/
structure PostSynthesisStyle where
  gain : Option ℚ
  lowPass : Option ℚ
  highPass : Option ℚ
  pan : Option ℚ
  chorus : Option ℚ
  reverb : Option ℚ
  echo : Option ℚ
  deriving Repr, DecidableEq

/-! ## Degradation -/

/-- Normalized ACSS dimensions. -/
inductive AcssDimension where
  | rate
  | averagePitch
  | pitchRange
  | stress
  | richness
  | volume
  deriving Repr, DecidableEq

/-- Engine-independent dimensions applied to returned audio. -/
inductive PostSynthesisDimension where
  | gain
  | lowPass
  | highPass
  | pan
  | chorus
  | reverb
  | echo
  deriving Repr, DecidableEq

/-- ACSS dimensions that an engine can apply or approximate. -/
structure AcssCapabilities where
  rate : Bool
  averagePitch : Bool
  pitchRange : Bool
  stress : Bool
  richness : Bool
  volume : Bool
  deriving Repr, DecidableEq

def AcssCapabilities.supports (capabilities : AcssCapabilities) : AcssDimension → Bool
  | .rate => capabilities.rate
  | .averagePitch => capabilities.averagePitch
  | .pitchRange => capabilities.pitchRange
  | .stress => capabilities.stress
  | .richness => capabilities.richness
  | .volume => capabilities.volume

/-- A style that was applied, and the dimensions omitted from it. -/
structure Application (Style Dimension : Type) where
  style : Style
  omitted : List Dimension
  deriving Repr, DecidableEq

abbrev AcssApplication := Application NormalizedAcss AcssDimension

abbrev PostSynthesisApplication := Application PostSynthesisStyle PostSynthesisDimension

section

variable {Dimension : Type} (supports : Dimension → Bool)

/-- The value, unless its dimension is not supported. -/
def keepSupported (dimension : Dimension) (value : Option ℚ) : Option ℚ :=
  if supports dimension then value else none

/-- The dimensions that have a value and are not supported. -/
def omitUnsupported (values : List (Dimension × Option ℚ)) : List Dimension :=
  (values.filter fun entry => entry.2.isSome && !supports entry.1).map Prod.fst

end

/-- The values of a style by dimension, in the order of degradation. -/
def NormalizedAcss.values (style : NormalizedAcss) : List (AcssDimension × Option ℚ) :=
  [(.rate, style.rate), (.averagePitch, style.averagePitch), (.pitchRange, style.pitchRange),
    (.stress, style.stress), (.richness, style.richness), (.volume, style.volume)]

/-- Omit unsupported dimensions while recording exactly what degraded. -/
def NormalizedAcss.degradeFor (acss : NormalizedAcss) (capabilities : AcssCapabilities) :
    AcssApplication :=
  let style := acss.clamped
  let keep := keepSupported capabilities.supports
  { style :=
      { rate := keep .rate style.rate
        averagePitch := keep .averagePitch style.averagePitch
        pitchRange := keep .pitchRange style.pitchRange
        stress := keep .stress style.stress
        richness := keep .richness style.richness
        volume := keep .volume style.volume }
    omitted := omitUnsupported capabilities.supports style.values }

def PostSynthesisStyle.clamped (effects : PostSynthesisStyle) : PostSynthesisStyle where
  gain := effects.gain.map clampNormalized
  lowPass := effects.lowPass.map clampNormalized
  highPass := effects.highPass.map clampNormalized
  pan := effects.pan.map clampNormalized
  chorus := effects.chorus.map clampNormalized
  reverb := effects.reverb.map clampNormalized
  echo := effects.echo.map clampNormalized

/-- The values of the effects by dimension, in the order of degradation. -/
def PostSynthesisStyle.values (effects : PostSynthesisStyle) :
    List (PostSynthesisDimension × Option ℚ) :=
  [(.gain, effects.gain), (.lowPass, effects.lowPass), (.highPass, effects.highPass),
    (.pan, effects.pan), (.chorus, effects.chorus), (.reverb, effects.reverb),
    (.echo, effects.echo)]

/-- Retain only dimensions available on the selected engine and audio path. -/
def PostSynthesisStyle.degradeFor (effects : PostSynthesisStyle)
    (supported : List PostSynthesisDimension) : PostSynthesisApplication :=
  let style := effects.clamped
  let keep := keepSupported supported.contains
  { style :=
      { gain := keep .gain style.gain
        lowPass := keep .lowPass style.lowPass
        highPass := keep .highPass style.highPass
        pan := keep .pan style.pan
        chorus := keep .chorus style.chorus
        reverb := keep .reverb style.reverb
        echo := keep .echo style.echo }
    omitted := omitUnsupported supported.contains style.values }

end Omnivox.Engines
