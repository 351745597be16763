import Omnivox.Foundations.Bounded
import Omnivox.Foundations.Fallible

/-!
# Shaped tone parameters

One frozen sound definition: a frequency, a duration, a gain and a shape. The
queue carries such definitions and the generator renders them, so they stand in
a module of their own, with the validation both rest on.
-/

set_option autoImplicit false

namespace Omnivox.Audio

open Foundations

def maxPresentationToneFrequencyHz : ℚ := 24000

def maxPresentationToneDurationMs : Nat := 60000

def maxShapedToneFrequencyHz : ℚ := 20000

inductive Waveform where
  | sine
  | triangle
  | square
  | pulse
  | sawtooth
  deriving Repr, DecidableEq

structure AdsrEnvelope where
  attackMs : Nat
  decayMs : Nat
  sustainLevel : F32
  releaseMs : Nat
  deriving Repr, DecidableEq

inductive EnvelopeCurve where
  | linear
  | exponential
  deriving Repr, DecidableEq

structure ToneShape where
  waveform : Waveform
  pulseWidth : Option F32
  endFrequencyHz : Option F32
  envelopeCurve : Option EnvelopeCurve
  /-- Without an envelope the generator keeps its Classic fades. -/
  envelope : Option AdsrEnvelope
  deriving Repr, DecidableEq

/-- The Classic shape: a plain sine. -/
def ToneShape.default : ToneShape where
  waveform := .sine
  pulseWidth := none
  endFrequencyHz := none
  envelopeCurve := none
  envelope := none

/-- One frozen sound definition, independent of clock placement and routing. -/
structure ToneParameters where
  frequencyHz : F32
  durationMs : Nat
  volume : F32
  shape : ToneShape
  deriving Repr, DecidableEq

/-- Finite, positive and at most `maximum`. -/
def audible (maximum : ℚ) : F32 → Bool
  | .finite value => decide (0 < value) && decide (value ≤ maximum)
  | .infinite _ => false
  | .nan => false

/-- Finite, and from 0.05 through 0.95. -/
def pulseWidthInRange : F32 → Bool
  | .finite value => decide (1 / 20 ≤ value) && decide (value ≤ 19 / 20)
  | .infinite _ => false
  | .nan => false

namespace ToneParameters

def maximumFrequency (tone : ToneParameters) : ℚ :=
  if tone.shape = ToneShape.default then maxPresentationToneFrequencyHz
  else maxShapedToneFrequencyHz

def frequencyMessage (tone : ToneParameters) : String :=
  if tone.shape = ToneShape.default then
    "tone frequency must be finite, positive and at most 24000 Hz"
  else "tone frequency must be finite, positive and at most 20000 Hz"

/-- Only a pulse has a width, and it must have one. -/
def validatePulseWidth : Waveform → Option F32 → Except String Unit
  | .pulse, some width =>
      ensure (pulseWidthInRange width) "pulse requires width from 0.05 through 0.95"
  | .pulse, none => .error "pulse requires width from 0.05 through 0.95"
  | _, some _ => .error "pulse width applies only to pulse"
  | _, none => .ok ()

def validateEnvelope : Option AdsrEnvelope → Except String Unit
  | none => .ok ()
  | some envelope => do
      ensure ([envelope.attackMs, envelope.decayMs, envelope.releaseMs].all
          (· ≤ maxPresentationToneDurationMs))
        "tone envelope times must be from 0 through 60000 ms"
      ensure envelope.sustainLevel.inUnitRange
        "tone sustain level must be finite and from 0 through 1"

/-- Shared standalone and timeline validation, including programmatic values. -/
def validate (tone : ToneParameters) : Except String Unit := do
  ensure (audible tone.maximumFrequency tone.frequencyHz) tone.frequencyMessage
  ensure (decide (tone.durationMs ≠ 0) && decide (tone.durationMs ≤ maxPresentationToneDurationMs))
    "tone duration must be from 1 through 60000 ms"
  ensure tone.volume.inUnitRange "tone volume must be finite and from 0 through 1"
  validatePulseWidth tone.shape.waveform tone.shape.pulseWidth
  ensure (tone.shape.endFrequencyHz.all (audible maxShapedToneFrequencyHz))
    "sweep end frequency must be positive and at most 20000 Hz"
  ensure (!(tone.shape.envelopeCurve.isSome && tone.shape.envelope.isNone))
    "envelope curve requires ADSR"
  validateEnvelope tone.shape.envelope

end ToneParameters

end Omnivox.Audio
