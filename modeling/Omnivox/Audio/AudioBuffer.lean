import Mathlib

/-!
# Audio buffers

A canonical buffer is interleaved stereo at 44100 Hz. Its constructor asserts an
even sample count, so a buffer is a list of stereo frames here.

The type of a sample is a parameter. What the code asks of it is listed by the
class of each component that asks.
-/

set_option autoImplicit false

namespace Omnivox.Audio

/-- Standard sample rate for all audio. -/
def sampleRate : Nat := 44100

/-- One sample per channel. -/
abbrev Frame (F : Type*) := F × F

/-- Interleaved stereo samples, a frame at a time. -/
abbrev AudioBuffer (F : Type*) := List (Frame F)

inductive AudioError where
  | cancelled
  | invalidFormat (message : String)
  | fileNotFound (message : String)
  | decodeError (message : String)
  | playbackError (message : String)
  | deviceNotFound (message : String)
  | effectError (message : String)
  | timelineError (message : String)
  deriving Repr, DecidableEq

end Omnivox.Audio
