import Recode.Buffer
import Recode.Engine.Directory

/-!
# Scripts

A scripted engine has no codecs. It passes payloads on and does what a script
tells it: the script fixes once what is on offer and how the contexts behave, and a
cue tells for a while which calls fail, yield nothing or yield something else than
they would.

## Main definitions

* `Offer`: An implementation that can be looked up.
* `Script`: What is fixed once.
* `PictureChange`, `PacketChange`: What to yield instead.
* `Cue`: What is told for a while.
-/

namespace Recode.Scripted

/-- An implementation that can be looked up. -/
structure Offer where
  /-- What it is registered under. -/
  key : String
  /-- The name it is reported as, if not the one it was looked up by. -/
  name : Option String := none
  /-- Why it cannot be opened. -/
  failure : Option String := none
  /-- The pixel formats it takes, if not those of the script. -/
  formats : Option (List PixelFormat) := none
deriving DecidableEq, Repr

/-- What is fixed once. -/
structure Script where
  /-- The decoders on offer; without a list every codec has one, and no name has. -/
  decoders : Option (List Offer) := none
  /-- The encoders on offer, likewise. -/
  encoders : Option (List Offer) := none
  encoderFormats : List PixelFormat := [.preferred]
  /-- The formats that nothing is converted from. -/
  rejectedFormats : List PixelFormat := []
  /-- The sizes at which nothing is converted. -/
  rejectedSizes : List (UInt32 × UInt32) := []
  /-- A payload that cannot be decoded. -/
  corrupt : Option Bytes := none
  decoderDelay : Nat := 0
  encoderDelay : Nat := 0
  /-- The format of decoded images. -/
  decoderOutput : PixelFormat := .preferred
deriving DecidableEq, Repr

/-- What a decoded picture holds instead of what it would; what is absent stays. -/
structure PictureChange where
  pixel : Option (Option PixelFormat) := none
  sample : Option (Option SampleFormat) := none
  width : Option UInt32 := none
  height : Option UInt32 := none
  sampleRate : Option UInt32 := none
  channels : Option UInt32 := none
  samples : Option UInt64 := none
  pts : Option (Option Int64) := none
  dts : Option (Option Int64) := none
  data : Option Bytes := none
deriving DecidableEq, Repr

/-- Changes a decoded picture. -/
def PictureChange.apply (c : PictureChange) (p : Picture Buffer) : Picture Buffer :=
  { pixel := c.pixel.getD p.pixel
    sample := c.sample.getD p.sample
    width := c.width.getD p.width
    height := c.height.getD p.height
    sampleRate := c.sampleRate.getD p.sampleRate
    channels := c.channels.getD p.channels
    samples := c.samples.getD p.samples
    pts := c.pts.getD p.pts
    dts := c.dts.getD p.dts
    store := { p.store with data := c.data.getD p.store.data } }

/-- What a packet holds instead of what it would; what is absent stays. -/
structure PacketChange where
  pts : Option (Option Int64) := none
  dts : Option (Option Int64) := none
  data : Option Bytes := none
deriving DecidableEq, Repr

/-- Changes a packet. -/
def PacketChange.apply (c : PacketChange) (p : EncodedPacket) : EncodedPacket :=
  { data := c.data.getD p.data, pts := c.pts.getD p.pts, dts := c.dts.getD p.dts }

/-- What becomes of the frames put into a context; `γ` says how they are changed. -/
structure FeedCue (γ : Type) where
  failure : Option String := none
  /-- The context takes the frame and forgets it. -/
  swallow : Bool := false
  change : γ
deriving DecidableEq, Repr

/-- When draining fails, and why. -/
structure DrainCue where
  /-- How many drains come first. -/
  after : Nat
  text : String
deriving DecidableEq, Repr

/-- What is told for a while. -/
structure Cue where
  decode : FeedCue PictureChange := { change := {} }
  encode : FeedCue PacketChange := { change := {} }
  convertFailure : Option String := none
  decoderDrain : Option DrainCue := none
  encoderDrain : Option DrainCue := none
deriving DecidableEq, Repr

/-- Whether and why a drain fails when `earlier` came before it. -/
def failureAfter (cue : Option DrainCue) (earlier : Nat) : Option String :=
  match cue with
  | some drain => if drain.after ≤ earlier then some drain.text else none
  | none => none

end Recode.Scripted
