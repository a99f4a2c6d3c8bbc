import Recode.Engine.Basic

/-!
# Presentation

What a decoder without a codec says about the payloads it passes on. The header of
the picture follows from the track alone; where the track is silent there are
values to fall back on.

## Main definitions

* `Track.present`: Presents a payload as a decoded picture.
-/

namespace Recode

/-- A size, or the one to fall back on where it is unknown. -/
def knownOr (size fallback : UInt32) : UInt32 := if size = 0 then fallback else size

/-- Presents the payload of a packet of this track as a decoded picture; images are
    in the format `output`. What is not set keeps its value. -/
def Track.present {Store : Type} (track : Track) (kind : TrackType) (output : PixelFormat)
    (packet : Packet) (store : Store) (out : Picture Store) : Picture Store :=
  let shown :=
    match kind with
    | .video =>
      { out with
        pixel := some output
        width := knownOr track.width 640
        height := knownOr track.height 480 }
    | .audio =>
      { out with
        sample := some .s16
        sampleRate := max track.sampleRate 8000
        channels := max track.channels 1
        samples := .ofNat packet.data.length }
  { shown with pts := some packet.pts, dts := some packet.dts, store }

end Recode
