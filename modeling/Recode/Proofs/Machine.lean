import Recode.Proofs.Cascade
import Recode.Proofs.Emission

/-!
# Engines that are state machines

An engine acts in a world, and nothing stops its answers from depending on all that
happened there. Most engines are better behaved: a call on a context is answered by
that context and the arguments alone, and a picture that is offered to be written to
holds nothing that could leak into the answer. Such an engine is a handful of state
machines, and those can be run as functions, without any world.

`Engine.Realizes` ties an engine to its machines. It does not mention looking up and
opening implementations: a chain at work has done with those.

The functions here that run the machines know nothing of worlds, pools, notes or
sinks. They are the three passes in which one would transcode a stream that is known
in full: decode everything, bring all pictures to one format, encode everything.

## Main definitions

* `Machine`: The contexts of an engine as state machines.
* `Engine.Realizes`: An engine answers as its machines do.
* `Machine.decodeAll`, `Machine.convertAll`, `Machine.encodeAll`: The three passes.
* `Machine.staged`: All three.

## Theorems

* `Engine.Realizes.onSecond`: An engine keeps its machines in a larger world.
* `Machine.formatPass_eq_convertAll`: The format chosen by the first picture can as
  well be chosen beforehand.
-/

namespace Recode

/-- The contexts of an engine as state machines. -/
structure Machine (b : Backend) where
  decode : b.Decoder → Packet → Except Cause (Option (Picture b.Store)) × b.Decoder
  drainDecoder : (context : b.Decoder) → Pull b.decoderOrder.rel context (Picture b.Store)
  openConverter : Geometry → PixelFormat → Except Cause b.Converter
  convert : b.Converter → Picture b.Store → Except Cause (Picture b.Store) × b.Converter
  encode : b.Encoder → Picture b.Store → Except Cause (Option EncodedPacket) × b.Encoder
  drainEncoder : (context : b.Encoder) → Pull b.encoderOrder.rel context EncodedPacket

section

variable {b : Backend} {σ ρ : Type}

/-- What a decoder says, apart from the picture it did not fill. -/
def Decoded.answer (decoded : Decoded b) : Except Cause (Option (Picture b.Store)) × b.Decoder :=
  (decoded.outcome.map fun filled => if filled then some decoded.picture else none,
    decoded.context)

/-- What draining a decoder yields. -/
def DecoderDrained.answer {context : b.Decoder} (drained : DecoderDrained b context) :
    Pull b.decoderOrder.rel context (Picture b.Store) :=
  match drained.pull with
  | .more _ next less => .more drained.picture next less
  | .empty next => .empty next
  | .failed cause next => .failed cause next

theorem DecoderDrained.stops_answer {context : b.Decoder} {drained : DecoderDrained b context}
    (h : drained.pull.Stops) : drained.answer.Stops := by
  rcases drained with ⟨picture, ⟨_, next, less⟩ | next | ⟨cause, next⟩⟩
  · exact h.elim
  · trivial
  · trivial

/-- What a converter says, apart from the picture it could not write. -/
def Converted.answer (converted : Converted b) : Except Cause (Picture b.Store) × b.Converter :=
  (converted.outcome.map fun _ => converted.picture, converted.context)

/-- An engine answers as its machines do, whatever the world, when the pictures it is
    offered hold nothing. -/
structure Engine.Realizes (e : Engine b σ) (m : Machine b) : Prop where
  decode : ∀ context packet blank w, e.Offers blank →
    (e.decode context packet blank w).value.answer = m.decode context packet
  drainDecoder : ∀ context blank w, e.Offers blank →
    (e.drainDecoder context blank w).value.answer = m.drainDecoder context
  openConverter : ∀ geometry target w,
    (e.openConverter geometry target w).value = m.openConverter geometry target
  convert : ∀ context picture blank w, e.Offers blank →
    (e.convert context picture blank w).value.answer = m.convert context picture
  encode : ∀ context picture w,
    ((e.encode context picture w).value.outcome, (e.encode context picture w).value.context)
      = m.encode context picture
  drainEncoder : ∀ context w, (e.drainEncoder context w).value = m.drainEncoder context

/-- In a larger world an engine has the same machines. -/
theorem Engine.Realizes.onSecond {e : Engine b σ} {m : Machine b} (h : e.Realizes m) :
    (e.onSecond (ρ := ρ)).Realizes m := by
  -- A picture that is made in the larger world could be made in the smaller one.
  have hoffers {blank} (hblank : (e.onSecond (ρ := ρ)).Offers blank) : e.Offers blank := by
    rcases hblank with ⟨w, hfresh⟩ | hused
    · exact .inl ⟨w.2, hfresh⟩
    · exact .inr hused
  exact {
    decode := fun context packet blank w hblank =>
      h.decode context packet blank w.2 (hoffers hblank)
    drainDecoder := fun context blank w hblank => h.drainDecoder context blank w.2 (hoffers hblank)
    openConverter := fun geometry target w => h.openConverter geometry target w.2
    convert := fun context picture blank w hblank =>
      h.convert context picture blank w.2 (hoffers hblank)
    encode := fun context picture w => h.encode context picture w.2
    drainEncoder := fun context w => h.drainEncoder context w.2 }

end

namespace Machine

variable {b : Backend} (m : Machine b)

/-! ## First pass -/

/-- Decodes one frame. A frame that cannot be decoded is dropped. -/
def decodeStep (context : b.Decoder) (unit : AccessUnit) : Option (Picture b.Store) × b.Decoder :=
  let (answer, context) := m.decode context ⟨unit.data, unit.dts, unit.pts⟩
  (yielded answer, context)

/-- Everything a decoder still holds. A failure ends it as an end does. -/
def drainedPictures (context : b.Decoder) : List (Picture b.Store) :=
  match m.drainDecoder context with
  | .more picture next _ => picture :: drainedPictures next
  | .empty _ => []
  | .failed _ _ => []
termination_by b.decoderOrder.wf.wrap context
decreasing_by assumption

variable {m} in
theorem drainedPictures_of_stops {context : b.Decoder} (h : (m.drainDecoder context).Stops) :
    m.drainedPictures context = [] := by
  rw [drainedPictures]
  cases hpull : m.drainDecoder context with
  | more picture next less =>
      rw [hpull] at h
      exact h.elim
  | empty next => rfl
  | failed cause next => rfl

/-- Decodes all frames and drains the decoder. -/
def decodeAll (context : b.Decoder) (units : List AccessUnit) : List (Picture b.Store) :=
  let (pictures, context) := pass m.decodeStep context units
  pictures ++ m.drainedPictures context

/-! ## Second pass -/

/-- Sets up a conversion from a geometry, unless it is refused. -/
def openConversion (target : PixelFormat) (geometry : Geometry) : Conversion b :=
  match m.openConverter geometry target with
  | .ok context => .ready context geometry
  | .error _ => .refused geometry

/-- The conversion for a geometry: the one at hand if it fits, else a new one. -/
def prepare (target : PixelFormat) (geometry : Geometry) : Conversion b → Conversion b
  | .ready context current =>
    if current = geometry then .ready context current else m.openConversion target geometry
  | .refused current =>
    if current = geometry then .refused current else m.openConversion target geometry
  | .idle => m.openConversion target geometry

/-- Brings one picture to a format as far as possible, and keeps its times. -/
def convertStep (target : PixelFormat) (conversion : Conversion b) (picture : Picture b.Store) :
    Picture b.Store × Conversion b :=
  match picture.geometry? with
  | none => (picture, conversion)
  | some geometry =>
    if geometry.format = target then (picture, conversion)
    else
      match m.prepare target geometry conversion with
      | .ready context geometry =>
        match m.convert context picture with
        | (.ok converted, context) =>
          ({ converted with pts := picture.pts, dts := picture.dts }, .ready context geometry)
        | (.error _, context) => (picture, .ready context geometry)
      | other => (picture, other)

/-- Puts pictures through one converter. -/
def throughConverter (target : PixelFormat) :
    Conversion b → List (Picture b.Store) → List (Picture b.Store)
  | _, [] => []
  | conversion, picture :: pictures =>
    let (converted, conversion) := m.convertStep target conversion picture
    converted :: throughConverter target conversion pictures

/-- What an encode stage would feed its encoder, given all pictures at once. Sound
    passes as it is. Images without a format are dropped, and the first of the others
    settles the format that all are brought to. -/
def convertAll (s : EncodeStage b) (pictures : List (Picture b.Store)) : List (Picture b.Store) :=
  match s.trackType with
  | .audio => pictures
  | .video =>
    let shown := pictures.filter fun picture => picture.pixel.isSome
    match shown.head?.bind Picture.pixel with
    | some incoming => m.throughConverter (s.negotiate incoming) .idle shown
    | none => []

/-! ## Third pass -/

/-- Encodes one picture. A picture that cannot be encoded is dropped. -/
def encodeStep (s : EncodeStage b) (context : b.Encoder) (picture : Picture b.Store) :
    Option AccessUnit × b.Encoder :=
  let (answer, context) := m.encode context picture
  ((yielded answer).map (s.unitOf · picture.pts picture.dts), context)

/-- Everything an encoder still holds. A failure ends it as an end does. -/
def drainedPackets (context : b.Encoder) : List EncodedPacket :=
  match m.drainEncoder context with
  | .more packet next _ => packet :: drainedPackets next
  | .empty _ => []
  | .failed _ _ => []
termination_by b.encoderOrder.wf.wrap context
decreasing_by assumption

variable {m} in
theorem drainedPackets_of_stops {context : b.Encoder} (h : (m.drainEncoder context).Stops) :
    m.drainedPackets context = [] := by
  rw [drainedPackets]
  cases hpull : m.drainEncoder context with
  | more packet next less =>
      rw [hpull] at h
      exact h.elim
  | empty next => rfl
  | failed cause next => rfl

/-- Encodes all pictures and drains the encoder. -/
def encodeAll (s : EncodeStage b) (pictures : List (Picture b.Store)) : List AccessUnit :=
  let (units, context) := pass (m.encodeStep s) s.context pictures
  units ++ (m.drainedPackets context).map (s.unitOf · none none)

/-- Transcodes a stream that is known in full, in three passes. -/
def staged (c : Chain b) (units : List AccessUnit) : List AccessUnit :=
  m.encodeAll c.encode (m.convertAll c.encode (m.decodeAll c.decode.context units))

/-! ## The second pass picture by picture -/

/-- What an encode stage feeds its encoder when pictures come one by one. The state is
    the format once it is settled, with the conversion to it. -/
def formatStep (s : EncodeStage b) (settled : Option (PixelFormat × Conversion b))
    (picture : Picture b.Store) :
    Option (Picture b.Store) × Option (PixelFormat × Conversion b) :=
  match s.trackType, picture.pixel with
  | .audio, _ => (some picture, settled)
  | .video, some incoming =>
    let (target, conversion) := settled.getD (s.negotiate incoming, .idle)
    let (converted, conversion) := m.convertStep target conversion picture
    (some converted, some (target, conversion))
  | .video, none => (none, settled)

variable {m} {s : EncodeStage b}

theorem formatStep_audio (hkind : s.trackType = .audio)
    (settled : Option (PixelFormat × Conversion b)) (picture : Picture b.Store) :
    m.formatStep s settled picture = (some picture, settled) := by
  unfold formatStep
  rw [hkind]

theorem formatStep_missing (hkind : s.trackType = .video)
    (settled : Option (PixelFormat × Conversion b)) {picture : Picture b.Store}
    (hpixel : picture.pixel = none) : m.formatStep s settled picture = (none, settled) := by
  unfold formatStep
  rw [hkind, hpixel]

/-- An image goes through the conversion to the settled format, and settles one if there was
    none. -/
theorem formatStep_video (hkind : s.trackType = .video)
    (settled : Option (PixelFormat × Conversion b)) {picture : Picture b.Store}
    {incoming : PixelFormat} (hpixel : picture.pixel = some incoming) :
    m.formatStep s settled picture
      = let (target, conversion) := settled.getD (s.negotiate incoming, .idle)
        let (converted, conversion) := m.convertStep target conversion picture
        (some converted, some (target, conversion)) := by
  unfold formatStep
  rw [hkind, hpixel]

/-- Once the format is settled, images without one are dropped and the others go through
    the one converter. -/
theorem formatPass_settled (hkind : s.trackType = .video) (target : PixelFormat)
    (conversion : Conversion b) (pictures : List (Picture b.Store)) :
    (pass (m.formatStep s) (some (target, conversion)) pictures).1
      = m.throughConverter target conversion
          (pictures.filter fun picture => picture.pixel.isSome) := by
  -- The induction is on the pictures; each may leave another conversion behind.
  induction pictures generalizing conversion with
  | nil => rfl
  | cons picture pictures ih =>
      rw [pass_cons]
      cases hpixel : picture.pixel with
      | none =>
          rw [formatStep_missing hkind _ hpixel, ih, List.filter_cons_of_neg (by simp [hpixel])]
          rfl
      | some incoming =>
          rw [formatStep_video hkind _ hpixel, List.filter_cons_of_pos (by simp [hpixel])]
          simp only [Option.getD_some, ih, throughConverter]
          rfl

/-- Choosing the format at the first picture comes to the same as looking for it beforehand. -/
theorem formatPass_eq_convertAll (pictures : List (Picture b.Store)) :
    (pass (m.formatStep s) none pictures).1 = m.convertAll s pictures := by
  unfold convertAll
  -- Pictures without a format change nothing, so the induction goes on to the first that has
  -- one.
  induction pictures with
  | nil => cases s.trackType <;> rfl
  | cons picture pictures ih =>
      rw [pass_cons]
      cases hkind : s.trackType with
      | audio =>
          -- The kind of the stage is settled first, or the two sides would match on it apart.
          simp only [hkind] at ih
          rw [formatStep_audio hkind, ih]
          rfl
      | video =>
          simp only [hkind] at ih
          cases hpixel : picture.pixel with
          | none =>
              rw [formatStep_missing hkind _ hpixel, ih,
                List.filter_cons_of_neg (by simp [hpixel])]
              rfl
          | some incoming =>
              -- This picture settles the format for all that follow.
              rw [formatStep_video hkind _ hpixel, List.filter_cons_of_pos (by simp [hpixel])]
              simp only [Option.getD_none, formatPass_settled hkind, List.head?_cons,
                Option.bind_some, hpixel, throughConverter]
              rfl

end Machine

end Recode
