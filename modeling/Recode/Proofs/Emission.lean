import Recode.Proofs.Observation

/-!
# What a stage emits

An encode stage talks to the sink in one place only: when its encoder has yielded
a packet. Everything else that happens to a frame, from the check of its format to
the conversion, is over before. `EncodeStage.bring` is that first part on its own,
and `EncodeStage.input_eq` says that nothing but encoding comes after it. The
converted picture goes back to the pool of its converter only after it has been
encoded, but the encoder does not see the pool, so the order makes no difference.

Decoding is silent altogether. `DecodeStage.input_value` says what it yields, and
that its pictures hold nothing when the decoder is given them.

With the silent part split off, what a stage emits for a picture is described once,
in `EncodeStage.encode_observed`: a packet becomes one frame for the sink, whose
answer is the outcome, and without a packet nothing is said and nothing goes wrong.

The two drains are loops, and they are opened here once and for all. Whoever wants to
know what a drain tells the sink says what one frame of it keeps and what its end keeps.

## Main definitions

* `Engine.Offers`: A picture that holds nothing.
* `Decoded.picture?`, `Encoded.packet?`: What came out, if anything did.
* `EncodeStage.bring`: Brings a frame to the encoder.
* `Delivered`: What telling the sink of a frame, or of none, amounts to.
* `Pull.Stops`: A drain has come to its end.

## Theorems

* `DecodeStage.input_value`: Decoding yields what the decoder makes of the packet.
* `EncodeStage.input_eq`: Frames are brought and then encoded.
* `EncodeStage.bring_onSecond`: Bringing a frame never talks to the sink.
* `EncodeStage.encode_observed`, `EncodeStage.input_observed`: Encoding delivers
  the packet that comes out.
* `EncodeStage.flush_observed`, `DecodeStage.flush_observed`: What a drain keeps.
* `Chain.input_observed`: What putting a frame into a chain keeps.
-/

namespace Recode

variable {b : Backend} {σ ρ : Type}

/-- A picture that holds nothing: what an engine makes or resets. -/
def Engine.Offers (e : Engine b σ) (blank : Picture b.Store) : Prop :=
  (∃ w, blank = (e.fresh w).value) ∨ ∃ used, blank = e.recycle used

/-- Whatever the pool, its pictures are reset before they are used again. -/
theorem Engine.offers_obtain (e : Engine b σ) (pool : Pool (Picture b.Store)) (w : σ) :
    e.Offers (pool.obtain e.fresh e.recycle w).value.1 := by
  unfold Pool.obtain
  rcases pool.idle with _ | ⟨used, rest⟩
  · exact .inl ⟨w, rfl⟩
  · exact .inr ⟨used, rfl⟩

/-- The picture that came out of a decoder, if one did. -/
def Decoded.picture? (decoded : Decoded b) : Option (Picture b.Store) :=
  match decoded.outcome with
  | .ok true => some decoded.picture
  | _ => none

@[simp] theorem DecodeStage.settle_codec (receipt : Receipt) (picture : Picture b.Store)
    (s : DecodeStage b) : (s.settle receipt picture).codec = s.codec := by
  unfold settle
  split <;> rfl

/-- What decoding a frame yields: what the decoder makes of the packet, named after the
    codec of the frame. Besides the decoder only the pool changes. -/
theorem DecodeStage.input_value (e : Engine b σ) (unit : AccessUnit) (s : DecodeStage b) (w : σ) :
    ∃ blank w', e.Offers blank ∧
      let decoded := (e.decode s.context ⟨unit.data, unit.dts, unit.pts⟩ blank w').value
      ∃ pool, (s.input e unit w).value
        = (decoded.picture?.map fun picture => ⟨picture, some unit.codec⟩,
            { s with context := decoded.context, pool }) := by
  refine ⟨_, (s.pool.obtain e.fresh e.recycle w).world, e.offers_obtain s.pool w, ?_⟩
  unfold DecodeStage.input
  simp only [Act.bind_value, Decoded.picture?]
  -- A failure, a swallowed packet and a picture differ in what becomes of the pool only.
  rcases (e.decode s.context _ _ _).value with ⟨cause | _ | _, picture, context⟩ <;>
    exact ⟨_, rfl⟩

namespace EncodeStage

/-- Brings a frame to the encoder: yields the picture to encode, unless the frame is an
    image without a format. A picture of the converter's pool is given back already. -/
def bring (e : Engine b σ) (frame : RawFrame b.Store) (s : EncodeStage b) :
    Act σ (Option (Picture b.Store) × EncodeStage b) := do
  match s.trackType, frame.picture.pixel with
  | .audio, _ => return (some frame.picture, s)
  | .video, some incoming =>
    let converter ← s.converterFor incoming
    let (converted?, converter) ← converter.convert e frame
    match converted? with
    | none => return (some frame.picture, { s with converter := some converter })
    | some converted =>
      return (some converted.picture,
        { s with converter := some (converter.release converted.picture) })
  | .video, none =>
    .note (.formatMissing s.codec frame.picture.width frame.picture.height)
    return (none, s)

/-- The encoder does not see the converter. -/
theorem encode_setConverter (e : Engine b σ) (emit : Emitter σ) (picture : Picture b.Store)
    (s : EncodeStage b) (converter : Option (ConvertStage b)) :
    encode e emit picture { s with converter }
      = (do
          let (outcome, s) ← encode e emit picture s
          return (outcome, { s with converter })) := by
  unfold encode
  simp only [bind_assoc]
  refine bind_congr fun encoded => ?_
  -- The note of a failed encoding names the codec, which the converter has no part in.
  rcases encoded.outcome with cause | _ | packet
  · simp only [bind_assoc, pure_bind, codec]
  · simp only [pure_bind]
  · simp only [bind_assoc, pure_bind]
    rfl

/-- A frame of the right kind is brought to the encoder, and encoded if it gets there. -/
theorem input_eq (e : Engine b σ) (emit : Emitter σ) (frame : RawFrame b.Store)
    (s : EncodeStage b) (hkind : frame.trackType = s.trackType) :
    s.input e emit frame
      = (do
          let (picture?, s) ← s.bring e frame
          match picture? with
          | none => return (.ok (), s)
          | some picture => encode e emit picture s) := by
  unfold input bring
  rw [if_pos hkind, ← hkind]
  cases frame.trackType with
  | audio => simp only [pure_bind]
  | video =>
      cases frame.picture.pixel with
      | none => simp only [bind_assoc, pure_bind]
      | some incoming =>
          simp only [encodeVideo, bind_assoc]
          refine bind_congr fun converter => bind_congr fun r => ?_
          rcases r with ⟨_ | converted, converter⟩
          · simp only [pure_bind]
          · -- The picture is given back before it is encoded here, and after that in the stage.
            -- The encoder cannot tell.
            simp only [pure_bind, encode_setConverter]

theorem bring_onSecond (e : Engine b σ) (frame : RawFrame b.Store) (s : EncodeStage b) :
    s.bring (e.onSecond (ρ := ρ)) frame = (s.bring e frame).onSecond := by
  unfold bring
  cases s.trackType with
  | audio => rfl
  | video =>
      cases frame.picture.pixel with
      | none => rfl
      | some incoming =>
          simp only [converterFor_onSecond, ConvertStage.convert_onSecond, Act.onSecond_bind]
          refine bind_congr fun converter => bind_congr fun r => ?_
          rcases r with ⟨_ | converted, converter⟩ <;> rfl

/-- Bringing a frame changes nothing but the converter. -/
theorem bring_value (e : Engine b σ) (frame : RawFrame b.Store) (s : EncodeStage b) (w : σ) :
    ∃ converter, (s.bring e frame w).value.2 = { s with converter } := by
  unfold bring
  cases s.trackType with
  | audio => exact ⟨s.converter, rfl⟩
  | video =>
      cases frame.picture.pixel with
      | none => exact ⟨s.converter, rfl⟩
      | some incoming =>
          simp only [Act.bind_value]
          -- Converted or not, the stage goes on with the converter that this has left.
          cases (ConvertStage.convert e frame (s.converterFor incoming w).value _).value.1 <;>
            exact ⟨_, rfl⟩

end EncodeStage

/-- What an answer yields; a failure yields nothing. -/
def yielded {α : Type} : Except Cause (Option α) → Option α
  | .ok a? => a?
  | .error _ => none

/-- The packet that came out of an encoder, if one did. -/
def Encoded.packet? (encoded : Encoded b) : Option EncodedPacket := yielded encoded.outcome

/-- What telling the sink of a frame, or of none, amounts to: the sink's answer is the
    outcome. -/
def Delivered (sink : Sink σ) : Option AccessUnit → List SinkCall → Except Fault Unit → Prop
  | none, calls, outcome => calls = [] ∧ outcome = .ok ()
  | some unit, calls, outcome =>
      calls = [.inputFrame unit outcome] ∧ ∃ w, outcome = (sink.inputFrame unit w).value

open Act

/-- What encoding a picture tells the sink, and where it leaves the stage. -/
theorem EncodeStage.encode_observed (e : Engine b σ) (sink : Sink σ) (picture : Picture b.Store)
    (s : EncodeStage b) :
    Observes (encode e.onSecond sink.observed.inputFrame picture s)
      (encode e sink.inputFrame picture s)
      fun calls r => ∃ w, let encoded := (e.encode s.context picture w).value
        r.2 = { s with context := encoded.context }
          ∧ Delivered sink (encoded.packet?.map (s.unitOf · picture.pts picture.dts)) calls
              r.1 := by
  unfold encode
  refine Observes.bind_silent fun w => ?_
  -- The encoder fails, keeps the picture back or yields a packet.
  rcases hencoded : (e.encode s.context picture w).value with ⟨cause | _ | packet, context⟩
  · refine Observes.bind_note _ (Observes.pure ⟨w, ?_⟩)
    rw [hencoded]
    exact ⟨rfl, rfl, rfl⟩
  · refine Observes.pure ⟨w, ?_⟩
    rw [hencoded]
    exact ⟨rfl, rfl, rfl⟩
  · -- A packet came out: the one entry is the call on the sink.
    refine Observes.bind_recorded fun w' => Observes.pure ⟨w, ?_⟩
    rw [hencoded]
    exact ⟨rfl, rfl, w', rfl⟩

/-- What encoding a frame tells the sink: nothing if no picture is brought to the
    encoder, else what comes of that picture. -/
theorem EncodeStage.input_observed (e : Engine b σ) (sink : Sink σ) (frame : RawFrame b.Store)
    (s : EncodeStage b) (hkind : frame.trackType = s.trackType) :
    Observes (s.input e.onSecond sink.observed.inputFrame frame) (s.input e sink.inputFrame frame)
      fun calls r => ∃ w, let brought := (s.bring e frame w).value
        match brought.1 with
        | none => r.2 = brought.2 ∧ Delivered sink none calls r.1
        | some picture => ∃ w', let encoded := (e.encode brought.2.context picture w').value
          r.2 = { brought.2 with context := encoded.context }
            ∧ Delivered sink
                (encoded.packet?.map (brought.2.unitOf · picture.pts picture.dts)) calls r.1 := by
  -- The check of the kind is passed, so nothing but the encoding can reach the sink.
  rw [input_eq _ _ _ _ hkind, input_eq _ _ _ _ hkind, bring_onSecond]
  refine Observes.bind_silent fun w => ?_
  rcases hbrought : (s.bring e frame w).value with ⟨_ | picture, brought⟩
  · refine Observes.pure ⟨w, ?_⟩
    rw [hbrought]
    exact ⟨rfl, rfl, rfl⟩
  · -- What is brought is encoded, and the entries are those of that.
    refine (encode_observed e sink picture brought).mono fun calls r hr => ⟨w, ?_⟩
    rw [hbrought]
    exact hr

/-- A context that is drained has nothing more to yield. -/
def Pull.Stops {γ α : Type} {smaller : γ → γ → Prop} {context : γ} :
    Pull smaller context α → Prop
  | .more .. => False
  | .empty _ => True
  | .failed .. => True

/-- A drain of the encoder keeps what every packet and the end of it keep. -/
theorem EncodeStage.flush_observed (e : Engine b σ) (sink : Sink σ)
    (post : EncodeStage b → List SinkCall → Except Fault Unit × EncodeStage b → Prop)
    (hmore : ∀ s packet next less w w',
      (e.drainEncoder s.context w).value = .more packet next less →
      let unit := s.unitOf packet none none
      let answer := (sink.inputFrame unit w').value
      (∀ fault, answer = .error fault →
          post s [.inputFrame unit answer] (.error fault, { s with context := next }))
        ∧ (answer = .ok () → ∀ more r, post { s with context := next } more r →
          post s (.inputFrame unit answer :: more) r))
    (hend : ∀ s s' w, (e.drainEncoder s.context w).value.Stops → post s [] (.ok (), s'))
    (s : EncodeStage b) :
    Observes (s.flush e.onSecond sink.observed.inputFrame) (s.flush e sink.inputFrame)
      (post s) := by
  -- The induction is on what the encoder still holds.
  induction s using EncodeStage.flush.induct with
  | case1 s ih =>
      rw [EncodeStage.flush, EncodeStage.flush]
      refine Observes.bind_silent fun w => ?_
      rcases hpull : (e.drainEncoder s.context w).value with
        ⟨packet, next, less⟩ | next | ⟨cause, next⟩
      · -- The drain ends with the first packet that the sink refuses.
        refine Observes.bind_recorded fun w' => ?_
        rcases hmore s packet next less w w' hpull with ⟨herror, hok⟩
        cases hanswer : (sink.inputFrame (s.unitOf packet none none) w').value with
        | error fault =>
            rw [hanswer] at herror
            exact Observes.pure (herror fault rfl)
        | ok _ =>
            rw [hanswer] at hok
            exact (ih next less).mono (hok rfl)
      · exact Observes.pure (hend s _ w (by rw [hpull]; trivial))
      · exact Observes.bind_note _ (Observes.pure (hend s _ w (by rw [hpull]; trivial)))

/-- A drain of the decoder keeps what delivering a frame and the end of it keep. The
    stage and the consumer may have to go together in some way, `valid`, for that. -/
theorem DecodeStage.flush_observed {δ κ : Type} (e : Engine b σ)
    {deliver' : Consumer b (List κ × σ) δ} {deliver : Consumer b σ δ}
    (valid : DecodeStage b → δ → Prop)
    (post : DecodeStage b → δ → List κ → Except Fault Unit × DecodeStage b × δ → Prop)
    (hmore : ∀ s d, valid s d → ∀ blank pool picture next less w, e.Offers blank →
      (e.drainDecoder s.context blank w).value = ⟨picture, .more () next less⟩ →
      Observes (deliver' d ⟨picture, some s.codec⟩) (deliver d ⟨picture, some s.codec⟩)
        fun calls r =>
          let after := settle r.1 picture { s with context := next, pool }
          (∀ fault, r.1.outcome = .error fault → post s d calls (.error fault, after, r.2))
          ∧ (r.1.outcome = .ok () → valid after r.2
            ∧ ∀ more r', post after r.2 more r' → post s d (calls ++ more) r'))
    (hend : ∀ s d s' blank w, e.Offers blank →
      (e.drainDecoder s.context blank w).value.pull.Stops → post s d [] (.ok (), s', d))
    (s : DecodeStage b) (d : δ) (hvalid : valid s d) :
    Observes (s.flush e.onSecond deliver' d) (s.flush e deliver d) (post s d) := by
  -- The induction is on what the decoder still holds.
  induction s, d using DecodeStage.flush.induct with
  | case1 s d ih =>
      rw [DecodeStage.flush, DecodeStage.flush, Engine.obtain_onSecond]
      refine Observes.bind_silent fun w => ?_
      -- A picture for the next frame is taken from the pool before the decoder is asked.
      have hblank := e.offers_obtain s.pool w
      rcases hobtain : (s.pool.obtain e.fresh e.recycle w).value with ⟨blank, pool⟩
      rw [hobtain] at hblank
      refine Observes.bind_silent fun w' => ?_
      rcases hdrained : (e.drainDecoder s.context blank w').value with
        ⟨picture, ⟨_, next, less⟩ | next | ⟨cause, next⟩⟩
      · -- A fault of the consumer ends the drain. Otherwise the picture may be kept or not,
        -- and the rest of the drain goes on with either pool.
        refine (hmore s d hvalid blank pool picture next less w' hblank hdrained).bind ?_
        rintro calls ⟨⟨outcome, kept⟩, d'⟩ ⟨herror, hok⟩
        cases outcome with
        | error fault =>
            refine Observes.pure ?_
            rw [List.append_nil]
            exact herror fault rfl
        | ok _ =>
            rcases hok rfl with ⟨hvalid', hrest⟩
            exact (ih pool ⟨picture, .empty next⟩ next less ⟨.ok (), kept⟩ d' hvalid').mono hrest
      · exact Observes.pure (hend s d _ blank w' hblank (by rw [hdrained]; trivial))
      · refine Observes.bind_note _ (Observes.pure ?_)
        exact hend s d _ blank w' hblank (by rw [hdrained]; trivial)

/-- What putting a frame into a chain keeps: nothing happens to the encoder unless the
    decoder yields a frame, and then it is delivered. -/
theorem Chain.input_observed (e : Engine b σ) (sink : Sink σ) (unit : AccessUnit) (c : Chain b)
    (post : List SinkCall → Except Fault Unit × Chain b → Prop)
    (hnone : ∀ decode w, (c.decode.input e unit w).value = (none, decode) →
      post [] (.ok (), { c with decode }))
    (hsome : ∀ frame decode w, (c.decode.input e unit w).value = (some frame, decode) →
      Observes (consumer e.onSecond sink.observed c.encode frame) (consumer e sink c.encode frame)
        fun calls r => post calls (r.1.outcome, ⟨decode.settle r.1 frame.picture, r.2⟩)) :
    Observes (c.input e.onSecond sink.observed unit) (c.input e sink unit) post := by
  unfold input DecodeStage.feed
  simp only [bind_assoc, DecodeStage.input_onSecond]
  -- Decoding is silent, so the frame is observed from the consumer on.
  refine Observes.bind_silent fun w => ?_
  rcases hvalue : (c.decode.input e unit w).value with ⟨_ | frame, decode⟩
  · exact Observes.pure (hnone decode w hvalue)
  · simp only [bind_assoc, pure_bind]
    refine (hsome frame decode w hvalue).bind fun calls r hpost => Observes.pure ?_
    rw [List.append_nil]
    exact hpost

end Recode
