import Recode.Proofs.Machine

/-!
# A chain is a cascade

On an engine that is a set of state machines a chain does what a cascade of three
stages does. `Chain.view` forgets all of a chain that the machines do not know: the
pools, the names, what was negotiated with. One frame put into the chain does to the
view what one step of the cascade does, and tells the sink what the step yields
(`Chain.input_stages`). Draining fits in because what the decoder still held goes the
same way as everything before.

The sink refuses nothing here. A fault of the sink ends a drain, and the rest of the
stream with it.

## Main definitions

* `Sink.Accepts`: The sink refuses nothing.
* `EncodeStage.view`, `Chain.view`: What the machines know of a stage or a chain.
* `Machine.encoding`, `Machine.transcoding`: What a stage or a chain does, as cascades.
* `Machine.remaining`: What a chain makes of all that its stages still hold.

## Theorems

* `ConvertStage.convert_value`, `EncodeStage.bring_stages`, `DecodeStage.input_stages`:
  The silent parts are steps of the machines.
* `EncodeStage.input_stages`, `Chain.input_stages`: One frame is one step of a cascade.
* `EncodeStage.flush_stages`, `Chain.flush_stages`: Draining yields what the machines
  still hold.
* `Machine.staged_eq`: Passes through the cascade are the three passes.
-/

namespace Recode

open Act

variable {b : Backend} {σ : Type} {e : Engine b σ} {m : Machine b}

namespace ConvertStage

theorem openConversion_value (hm : e.Realizes m) (geometry : Geometry) (target : PixelFormat)
    (w : σ) : (openConversion e geometry target w).value = m.openConversion target geometry := by
  unfold openConversion Machine.openConversion
  rw [Act.bind_value, hm.openConverter]
  cases m.openConverter geometry target <;> rfl

/-- A stage keeps or replaces its conversion as the machine does. -/
theorem prepare_value (hm : e.Realizes m) (geometry : Geometry) (s : ConvertStage b) (w : σ) :
    (s.prepare e geometry w).value = m.prepare s.target geometry s.conversion := by
  unfold prepare Machine.prepare
  -- The three cases are those of the machine: nothing set up, set up, and refused.
  cases s.conversion with
  | idle => exact openConversion_value hm geometry s.target w
  | ready context current =>
      by_cases hsame : current = geometry
      · simp only [if_pos hsame]
        rfl
      · simp only [if_neg hsame, Act.bind_value]
        exact openConversion_value hm geometry s.target _
  | refused current =>
      by_cases hsame : current = geometry
      · simp only [if_pos hsame]
        rfl
      · simp only [if_neg hsame]
        exact openConversion_value hm geometry s.target w

/-- Converting a frame is a step of the converter machine, where a frame that passes as
    it is counts as its own result. -/
theorem convert_value (hm : e.Realizes m) (frame : RawFrame b.Store) (s : ConvertStage b) (w : σ) :
    let r := (s.convert e frame w).value
    let next := m.convertStep s.target s.conversion frame.picture
    (r.1.map RawFrame.picture).getD frame.picture = next.1
      ∧ ∃ pool, r.2 = { s with conversion := next.2, pool } := by
  unfold convert Machine.convertStep
  cases frame.picture.geometry? with
  | none => exact ⟨rfl, s.pool, rfl⟩
  | some geometry =>
      by_cases hsame : geometry.format = s.target
      · simp only [if_pos hsame]
        exact ⟨rfl, s.pool, rfl⟩
      · simp only [if_neg hsame, Act.bind_value, prepare_value hm]
        cases m.prepare s.target geometry s.conversion with
        | idle => exact ⟨rfl, s.pool, rfl⟩
        | refused _ => exact ⟨rfl, s.pool, rfl⟩
        | ready context geometry =>
            simp only [Act.bind_value]
            -- The machine needs no pool, since what comes from one holds nothing.
            rw [← hm.convert context frame.picture _ _ (e.offers_obtain s.pool _)]
            rcases (e.convert context frame.picture _ _).value with ⟨cause | _, picture, context⟩
            · exact ⟨rfl, _, rfl⟩
            · exact ⟨rfl, _, rfl⟩

end ConvertStage

/-- The sink refuses nothing. -/
structure Sink.Accepts (sink : Sink σ) : Prop where
  addTrack : ∀ track w, (sink.addTrack track w).value = .ok ()
  inputFrame : ∀ unit w, (sink.inputFrame unit w).value = .ok ()

/-- The calls by which frames are passed to a sink that takes them. -/
def taken (units : List AccessUnit) : List SinkCall :=
  units.map fun unit => .inputFrame unit (.ok ())

theorem taken_append (units units' : List AccessUnit) :
    taken (units ++ units') = taken units ++ taken units' := List.map_append

/-- A sink that refuses nothing takes what it is given. -/
theorem Delivered.taken {sink : Sink σ} (hsink : sink.Accepts) {unit? : Option AccessUnit}
    {calls : List SinkCall} {outcome : Except Fault Unit} (h : Delivered sink unit? calls outcome) :
    calls = Recode.taken unit?.toList ∧ outcome = .ok () := by
  cases unit? with
  | none => exact h
  | some unit =>
      rcases h with ⟨rfl, w, hanswer⟩
      rw [hsink.inputFrame] at hanswer
      rw [hanswer]
      exact ⟨rfl, rfl⟩

/-- What the machines know of an encode stage. -/
def EncodeStage.view (s : EncodeStage b) : Option (PixelFormat × Conversion b) × b.Encoder :=
  (s.converter.map fun converter => (converter.target, converter.conversion), s.context)

/-- What the machines know of a chain. -/
def Chain.view (c : Chain b) : b.Decoder × Option (PixelFormat × Conversion b) × b.Encoder :=
  (c.decode.context, c.encode.view)

namespace Machine

variable (m)

/-- What an encode stage does to a picture. -/
def encoding (s : EncodeStage b) :
    (Option (PixelFormat × Conversion b) × b.Encoder) → Picture b.Store →
      Option AccessUnit × Option (PixelFormat × Conversion b) × b.Encoder :=
  cascade (m.formatStep s) (m.encodeStep s)

/-- What a chain does to a frame. -/
def transcoding (c : Chain b) :
    (b.Decoder × Option (PixelFormat × Conversion b) × b.Encoder) → AccessUnit →
      Option AccessUnit × b.Decoder × Option (PixelFormat × Conversion b) × b.Encoder :=
  cascade m.decodeStep (m.encoding c.encode)

/-- What a chain makes of everything that its stages still hold. -/
def remaining (c : Chain b) : List AccessUnit :=
  let (units, _, context) :=
    pass (m.encoding c.encode) c.encode.view (m.drainedPictures c.decode.context)
  units ++ (m.drainedPackets context).map (c.encode.unitOf · none none)

variable {m}

/-- The second and third pass, one picture after the other. -/
theorem encodeAll_convertAll {s : EncodeStage b} (hnew : s.converter = none)
    (pictures : List (Picture b.Store)) :
    let (units, _, context) := pass (m.encoding s) s.view pictures
    m.encodeAll s (m.convertAll s pictures)
      = units ++ (m.drainedPackets context).map (s.unitOf · none none) := by
  have hview : s.view = (none, s.context) := by
    rw [EncodeStage.view, hnew]
    rfl
  -- The cascade picture by picture is one pass after the other.
  rw [hview, encoding, pass_cascade, formatPass_eq_convertAll]
  rfl

/-- What comes out of a chain frame by frame, and then at its end, is what the three
    passes yield. -/
theorem staged_eq {c c' : Chain b} {units : List AccessUnit} (hnew : c.encode.converter = none)
    (hencode : ∃ context converter, c'.encode = { c.encode with context, converter })
    (hview : c'.view = (pass (m.transcoding c) c.view units).2) :
    (pass (m.transcoding c) c.view units).1 ++ m.remaining c' = m.staged c units := by
  rcases hencode with ⟨context, converter, hencode⟩
  rw [transcoding, Chain.view, pass_cascade] at hview ⊢
  have hdecoder : c'.decode.context = _ := congrArg Prod.fst hview
  have hencoder : c'.encode.view = _ := congrArg Prod.snd hview
  have hencoding : m.encoding c'.encode = m.encoding c.encode := by
    rw [hencode]
    rfl
  -- What the decoder held goes on through the later stages where the frames left them.
  simp only [remaining, staged, decodeAll, encodeAll_convertAll hnew, pass_append, hdecoder,
    hencoder, hencoding, List.append_assoc]
  rw [hencode]
  rfl

end Machine

namespace EncodeStage

/-- The converter at hand goes on from where it was, and a new one starts from nothing. -/
theorem converterFor_value (s : EncodeStage b) (incoming : PixelFormat) (w : σ) :
    let converter := (s.converterFor incoming w).value
    (converter.target, converter.conversion) = s.view.1.getD (s.negotiate incoming, .idle) := by
  unfold converterFor view
  cases s.converter <;> rfl

/-- Bringing a frame to the encoder is the step of the second pass. -/
theorem bring_stages (hm : e.Realizes m) (frame : RawFrame b.Store) (s : EncodeStage b) (w : σ) :
    let r := (s.bring e frame w).value
    let next := m.formatStep s s.view.1 frame.picture
    r.1 = next.1 ∧ ∃ converter, r.2 = { s with converter } ∧ r.2.view = (next.2, s.context) := by
  -- The cases are those of the step: sound, an image without a format, and one with it.
  cases hkind : s.trackType with
  | audio =>
      simp only [Machine.formatStep_audio hkind]
      unfold bring
      rw [hkind]
      exact ⟨rfl, s.converter, rfl, rfl⟩
  | video =>
      cases hpixel : frame.picture.pixel with
      | none =>
          simp only [Machine.formatStep_missing hkind _ hpixel]
          unfold bring
          rw [hkind, hpixel]
          exact ⟨rfl, s.converter, rfl, rfl⟩
      | some incoming =>
          -- The first image with a format makes the converter, all others find it there.
          have hconverter := s.converterFor_value incoming w
          have hconvert := ConvertStage.convert_value hm frame (s.converterFor incoming w).value
            (s.converterFor incoming w).world
          simp only [Machine.formatStep_video hkind _ hpixel, ← hconverter]
          unfold bring
          simp only [hkind, hpixel, Act.bind_value]
          rcases hvalue : ((s.converterFor incoming w).value.convert e frame _).value with
            ⟨_ | converted, converter⟩
          · rw [hvalue] at hconvert
            rcases hconvert with ⟨hpicture, pool, hpool⟩
            exact ⟨congrArg some hpicture, some converter, rfl, by rw [hpool]; rfl⟩
          · rw [hvalue] at hconvert
            rcases hconvert with ⟨hpicture, pool, hpool⟩
            exact ⟨congrArg some hpicture, some (converter.release converted.picture), rfl,
              by rw [hpool]; rfl⟩

/-- Encoding a picture is the step of the third pass. -/
theorem encodeStep_eq (hm : e.Realizes m) (s : EncodeStage b) (context : b.Encoder)
    (picture : Picture b.Store) (w : σ) :
    let encoded := (e.encode context picture w).value
    m.encodeStep s context picture
      = (encoded.packet?.map (s.unitOf · picture.pts picture.dts), encoded.context) := by
  intro encoded
  unfold Machine.encodeStep
  rw [← hm.encode context picture w]
  rfl

/-- A frame put into an encode stage is a step of its cascade. -/
theorem input_stages (hm : e.Realizes m) {sink : Sink σ} (hsink : sink.Accepts)
    (frame : RawFrame b.Store) (s : EncodeStage b) (hkind : frame.trackType = s.trackType) :
    Observes (s.input e.onSecond sink.observed.inputFrame frame) (s.input e sink.inputFrame frame)
      fun calls r => ∃ context converter, r.2 = { s with context, converter } ∧ r.1 = .ok ()
        ∧ calls = taken (m.encoding s s.view frame.picture).1.toList
        ∧ r.2.view = (m.encoding s s.view frame.picture).2 := by
  refine (input_observed e sink frame s hkind).mono ?_
  rintro calls ⟨outcome, s'⟩ ⟨w, hr⟩
  rcases bring_stages hm frame s w with ⟨hpicture, converter, hconverter, hview⟩
  rw [hconverter] at hview
  rcases hformat : m.formatStep s s.view.1 frame.picture with ⟨_ | picture, settled⟩
  · -- No picture gets to the encoder, and its context stays.
    have hstep : m.encoding s s.view frame.picture = (none, settled, s.context) :=
      cascade_none hformat
    rw [hformat] at hpicture hview
    simp only [hpicture, hconverter] at hr
    rcases hr with ⟨rfl, rfl, rfl⟩
    rw [hstep]
    exact ⟨s.context, converter, rfl, rfl, rfl, hview⟩
  · -- A picture gets there, and the encoder answers from the context it had before.
    have hstep : m.encoding s s.view frame.picture
        = ((m.encodeStep s s.context picture).1, settled, (m.encodeStep s s.context picture).2) :=
      cascade_some hformat
    rw [hformat] at hpicture hview
    simp only [hpicture, hconverter] at hr
    rcases hr with ⟨w', rfl, hdelivered⟩
    rcases hdelivered.taken hsink with ⟨rfl, hok⟩
    rw [hstep, encodeStep_eq hm s s.context picture w']
    refine ⟨_, converter, rfl, hok, rfl, Prod.ext ?_ rfl⟩
    have hsettled := congrArg Prod.fst hview
    exact hsettled

/-- Draining the encoder yields what its machine still holds. -/
theorem flush_stages (hm : e.Realizes m) {sink : Sink σ} (hsink : sink.Accepts)
    (s : EncodeStage b) :
    Observes (s.flush e.onSecond sink.observed.inputFrame) (s.flush e sink.inputFrame)
      fun calls r => r.1 = .ok ()
        ∧ calls = taken ((m.drainedPackets s.context).map (s.unitOf · none none)) := by
  refine flush_observed e sink (fun s calls r => r.1 = .ok ()
    ∧ calls = taken ((m.drainedPackets s.context).map (s.unitOf · none none))) ?_ ?_ s
  · intro s packet next less w w' hpull unit answer
    have hanswer : answer = .ok () := hsink.inputFrame unit w'
    -- The machine has yielded this packet and holds the rest.
    have hpackets : m.drainedPackets s.context = packet :: m.drainedPackets next := by
      rw [Machine.drainedPackets, ← hm.drainEncoder s.context w, hpull]
    rw [hanswer, hpackets]
    refine ⟨fun fault hfault => ?_, ?_⟩
    · cases hfault
    · rintro - more r ⟨hok, rfl⟩
      exact ⟨hok, rfl⟩
  · intro s s' w hstops
    rw [hm.drainEncoder] at hstops
    rw [Machine.drainedPackets_of_stops hstops]
    exact ⟨rfl, rfl⟩

end EncodeStage

/-- Decoding a frame is the step of the first pass. -/
theorem DecodeStage.input_stages (hm : e.Realizes m) (unit : AccessUnit) (s : DecodeStage b)
    (w : σ) :
    let next := m.decodeStep s.context unit
    ∃ pool, (s.input e unit w).value
      = (next.1.map fun picture => ⟨picture, some unit.codec⟩,
          { s with context := next.2, pool }) := by
  rcases s.input_value e unit w with ⟨blank, w', hblank, pool, hvalue⟩
  refine ⟨pool, ?_⟩
  rw [hvalue]
  unfold Machine.decodeStep
  -- The picture that was offered holds nothing, so the machine answers the same.
  rw [← hm.decode s.context ⟨unit.data, unit.dts, unit.pts⟩ blank w' hblank]
  rcases (e.decode s.context _ blank w').value with ⟨cause | _ | _, picture, context⟩ <;> rfl

namespace Chain

/-- The encoder behind a decoder does a step of its cascade. -/
theorem consumer_stages (hm : e.Realizes m) {sink : Sink σ} (hsink : sink.Accepts)
    (encode : EncodeStage b) (picture : Picture b.Store) (source : Codec)
    (hkind : source.trackType = encode.trackType) :
    Observes (consumer e.onSecond sink.observed encode ⟨picture, some source⟩)
      (consumer e sink encode ⟨picture, some source⟩)
      fun calls r => ∃ context converter, r.2 = { encode with context, converter }
        ∧ r.1.outcome = .ok ()
        ∧ calls = taken (m.encoding encode encode.view picture).1.toList
        ∧ r.2.view = (m.encoding encode encode.view picture).2 := by
  refine (EncodeStage.input_stages hm hsink ⟨picture, some source⟩ encode hkind).bind ?_
  rintro calls ⟨outcome, encode'⟩ h
  refine Observes.pure ?_
  rw [List.append_nil]
  exact h

/-- One frame put into a chain is one step of the cascade. -/
theorem input_stages (hm : e.Realizes m) {sink : Sink σ} (hsink : sink.Accepts)
    (unit : AccessUnit) (c : Chain b) (hkind : unit.trackType = c.encode.trackType) :
    Observes (c.input e.onSecond sink.observed unit) (c.input e sink unit)
      fun calls r => r.1 = .ok () ∧ r.2.decode.codec = c.decode.codec
        ∧ (∃ context converter, r.2.encode = { c.encode with context, converter })
        ∧ calls = taken (m.transcoding c c.view unit).1.toList
        ∧ r.2.view = (m.transcoding c c.view unit).2 := by
  rcases hdecode : m.decodeStep c.decode.context unit with ⟨picture?, context⟩
  refine input_observed e sink unit c _ ?_ ?_
  · intro decode w hvalue
    rcases DecodeStage.input_stages hm unit c.decode w with ⟨pool, hinput⟩
    rw [hvalue, hdecode] at hinput
    cases picture? with
    | some picture => cases hinput
    | none =>
        -- The decoder kept the frame, so nothing goes on.
        have hstep : m.transcoding c c.view unit = (none, context, c.encode.view) :=
          cascade_none hdecode
        cases hinput
        rw [hstep]
        exact ⟨rfl, rfl, ⟨_, _, rfl⟩, rfl, rfl⟩
  · intro frame decode w hvalue
    rcases DecodeStage.input_stages hm unit c.decode w with ⟨pool, hinput⟩
    rw [hvalue, hdecode] at hinput
    cases picture? with
    | none => cases hinput
    | some picture =>
        -- A picture came out of the decoder, and the later stages go on with it.
        have hstep : m.transcoding c c.view unit
            = ((m.encoding c.encode c.encode.view picture).1, context,
                (m.encoding c.encode c.encode.view picture).2) := cascade_some hdecode
        cases hinput
        rw [hstep]
        refine (consumer_stages hm hsink c.encode picture unit.codec hkind).mono ?_
        rintro calls ⟨receipt, encode⟩ ⟨context', converter, hencode, hok, hcalls, hview⟩
        refine ⟨hok, DecodeStage.settle_codec .., ⟨context', converter, hencode⟩, hcalls, ?_⟩
        simp only [view, DecodeStage.settle_context]
        exact congrArg _ hview

/-- Draining the decoder puts what its machine still holds through the encoder. -/
theorem decode_flush_stages (hm : e.Realizes m) {sink : Sink σ} (hsink : sink.Accepts)
    (decode : DecodeStage b) (encode : EncodeStage b)
    (hkind : decode.trackType = encode.trackType) :
    Observes (decode.flush e.onSecond (consumer e.onSecond sink.observed) encode)
      (decode.flush e (consumer e sink) encode)
      fun calls r => r.1 = .ok ()
        ∧ (∃ context converter, r.2.2 = { encode with context, converter })
        ∧ let rest := pass (m.encoding encode) encode.view (m.drainedPictures decode.context)
          calls = taken rest.1 ∧ r.2.2.view = rest.2 := by
  refine DecodeStage.flush_observed e (fun decode encode => decode.trackType = encode.trackType)
    (fun decode encode calls r => r.1 = .ok ()
      ∧ (∃ context converter, r.2.2 = { encode with context, converter })
      ∧ let rest := pass (m.encoding encode) encode.view (m.drainedPictures decode.context)
        calls = taken rest.1 ∧ r.2.2.view = rest.2) ?_ ?_ decode encode hkind
  · intro decode encode hkind blank pool picture next less w hblank hdrained
    -- The machine has yielded the same picture and holds the same rest.
    have hpictures : m.drainedPictures decode.context = picture :: m.drainedPictures next := by
      rw [Machine.drainedPictures, ← hm.drainDecoder decode.context blank w hblank, hdrained]
      rfl
    refine (consumer_stages hm hsink encode picture decode.codec hkind).mono ?_
    rintro calls ⟨receipt, encode'⟩ ⟨context, converter, hencode, hok, hcalls, hview⟩
    simp only at hencode hok hcalls hview
    subst hencode hcalls
    refine ⟨fun fault houtcome => ?_, fun _ => ⟨?_, ?_⟩⟩
    · rw [hok] at houtcome
      cases houtcome
    · rw [DecodeStage.trackType, DecodeStage.settle_codec]
      exact hkind
    · -- The pass goes on from where delivering this picture has left the encoder.
      rintro more r ⟨hok', hencode', hmore, hview'⟩
      rw [DecodeStage.settle_context, hview] at hmore hview'
      rw [hpictures, hmore]
      exact ⟨hok', hencode', (taken_append _ _).symm, hview'⟩
  · intro decode encode decode' blank w hblank hstops
    have hanswer := DecoderDrained.stops_answer hstops
    rw [hm.drainDecoder decode.context blank w hblank] at hanswer
    rw [Machine.drainedPictures_of_stops hanswer]
    exact ⟨rfl, ⟨_, _, rfl⟩, rfl, rfl⟩

/-- Draining a chain yields what its machines still hold. -/
theorem flush_stages (hm : e.Realizes m) {sink : Sink σ} (hsink : sink.Accepts) (c : Chain b)
    (hkind : c.decode.trackType = c.encode.trackType) :
    Observes (c.flush e.onSecond sink.observed) (c.flush e sink)
      fun calls outcome => outcome = .ok () ∧ calls = taken (m.remaining c) := by
  refine (decode_flush_stages hm hsink c.decode c.encode hkind).bind ?_
  rintro calls ⟨outcome, decode, encode⟩ ⟨hok, ⟨context, converter, hencode⟩, hcalls, hview⟩
  simp only at hok hencode hview
  subst hok hencode hcalls
  -- The decoder is empty now, and the encoder is drained from where it was left.
  refine (EncodeStage.flush_stages hm hsink _).bind ?_
  rintro more ⟨outcome, encode'⟩ ⟨hok, rfl⟩
  refine Observes.pure ⟨hok, ?_⟩
  simp only [Machine.remaining, List.append_nil, taken_append, ← hview]
  rfl

end Chain

end Recode
