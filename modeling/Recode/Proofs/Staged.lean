import Mathlib
import Recode.Proofs.Loopback.Machine
import Recode.Proofs.Opening
import Recode.Proofs.Simulation

/-!
# Streaming and batches agree

A transcoder works frame by frame. Every frame runs through decoder, converter and
encoder before the next one comes in, every stage may keep frames back or drop them,
and at the end the decoder is drained into the encoder and then the encoder itself.
On an engine that is a set of state machines the result is the same as that of three
passes over the whole stream.

A chain is a cascade, and a pass through a cascade is several passes in a row. What is
left to show is that a transcoder with a single chain at work hands every frame to
that chain and drains nothing else.

## Theorems

* `Transcoder.inputs_stages`: Frames put in are a pass through the cascade.
* `Transcoder.flush_stages`: A flush drains the one chain there is.
* `Transcoder.run_opened`: A whole stream, given the chain that opens for it.
* `Transcoder.run_eq_staged`: Streaming and batches agree.
-/

namespace Recode

open Act

variable {b : Backend} {σ : Type} {e : Engine b σ} {m : Machine b}

namespace Transcoder

variable {t : Transcoder b} {kind : TrackType}

theorem setLane_none (kind : TrackType) (hlanes : t.lanes = ⟨none, none⟩) :
    t.setLane kind none = t := by
  rcases t with ⟨config, usable, lanes⟩
  cases hlanes
  cases kind <;> rfl

/-- A frame of the codec that is being transcoded goes to the chain. -/
theorem inputFrame_eq (e : Engine b σ) (sink : Sink σ) {unit : AccessUnit} {codec : Codec}
    {c : Chain b} (hunit : unit.codec = codec) (hcodec : c.decode.codec = codec)
    (hdiffers : codec ≠ t.target codec.trackType) :
    (t.setLane codec.trackType (some c)).inputFrame e sink unit
      = (do
          let (outcome, c) ← c.input e sink unit
          return (outcome, t.setLane codec.trackType (some c))) := by
  have hkind : unit.trackType = codec.trackType := congrArg Codec.trackType hunit
  -- Which chains are at work does not change the target.
  have htarget : (t.setLane codec.trackType (some c)).target codec.trackType
      = t.target codec.trackType := rfl
  have hlane : (t.setLane codec.trackType (some c)).lanes.get codec.trackType = some c :=
    Lanes.get_set_self ..
  unfold inputFrame
  simp only [hkind, hunit, htarget, if_neg hdiffers, hlane, if_pos hcodec, setLane_setLane]

/-- Frames put in one after the other are a pass through the cascade. -/
theorem inputs_stages (hm : e.Realizes m) {sink : Sink σ} (hsink : sink.Accepts) {codec : Codec}
    (hdiffers : codec ≠ t.target codec.trackType) (c : Chain b) (hcodec : c.decode.codec = codec)
    (hkind : c.encode.trackType = codec.trackType) (units : List AccessUnit)
    (hunits : ∀ unit ∈ units, unit.codec = codec) :
    Observes
      ((t.setLane codec.trackType (some c)).run e.onSecond sink.observed (units.map .inputFrame))
      ((t.setLane codec.trackType (some c)).run e sink (units.map .inputFrame))
      fun calls r => (∀ outcome ∈ r.1, outcome = .ok ())
        ∧ ∃ c', r.2 = t.setLane codec.trackType (some c') ∧ c'.decode.codec = codec
        ∧ (∃ context converter, c'.encode = { c.encode with context, converter })
        ∧ calls = taken (pass (m.transcoding c) c.view units).1
        ∧ c'.view = (pass (m.transcoding c) c.view units).2 := by
  -- The induction is on the frames, each of which leaves another chain behind.
  induction units generalizing c with
  | nil =>
      refine Observes.pure ⟨?_, c, rfl, hcodec, ?_, rfl, rfl⟩
      · intro _ hmem
        exact absurd hmem List.not_mem_nil
      · exact ⟨c.encode.context, c.encode.converter, rfl⟩
  | cons unit units ih =>
      have hunit : unit.codec = codec := hunits unit (List.mem_cons_self ..)
      have hunits : ∀ unit' ∈ units, unit'.codec = codec :=
        fun unit' hmem => hunits unit' (List.mem_cons_of_mem _ hmem)
      have hinput : unit.trackType = c.encode.trackType :=
        (congrArg Codec.trackType hunit).trans hkind.symm
      rw [List.map_cons, run, run, perform, perform,
        inputFrame_eq e.onSecond sink.observed hunit hcodec hdiffers,
        inputFrame_eq e sink hunit hcodec hdiffers]
      simp only [bind_assoc, pure_bind]
      refine (c.input_stages hm hsink unit hinput).bind ?_
      rintro calls ⟨outcome, c₁⟩ ⟨hok, hdecode, ⟨context, converter, hencode⟩, hcalls, hview⟩
      simp only at hok hdecode hencode hcalls hview
      have hkind₁ : c₁.encode.trackType = codec.trackType := by
        rw [hencode]
        exact hkind
      -- The cascade knows the encode stage by its settings and formats only, and those stay.
      have hstages : m.transcoding c₁ = m.transcoding c := by
        unfold Machine.transcoding
        rw [hencode]
        rfl
      refine (ih c₁ (hdecode.trans hcodec) hkind₁ hunits).bind ?_
      rintro more ⟨outcomes, t'⟩ ⟨hoks, c', ht', hcodec', ⟨context', converter', hencode'⟩,
        hmore, hview'⟩
      rw [hstages, hview] at hmore hview'
      refine Observes.pure ⟨?_, c', ht', hcodec', ⟨context', converter', ?_⟩, ?_, hview'⟩
      · exact List.forall_mem_cons.mpr ⟨hok, hoks⟩
      · rw [hencode', hencode]
      · rw [List.append_nil, hcalls, hmore, pass_cons, taken_append]

theorem flushLane_none (e : Engine b σ) (sink : Sink σ) (hlane : t.lanes.get kind = none) :
    t.flushLane e sink kind = pure (.ok (), t) := by
  unfold flushLane
  rw [hlane]

theorem flushLane_stages (hm : e.Realizes m) {sink : Sink σ} (hsink : sink.Accepts) {c : Chain b}
    (hlane : t.lanes.get kind = some c) (hkind : c.decode.trackType = c.encode.trackType) :
    Observes (t.flushLane e.onSecond sink.observed kind) (t.flushLane e sink kind)
      fun calls r => r = (.ok (), t.setLane kind none) ∧ calls = taken (m.remaining c) := by
  unfold flushLane
  rw [hlane]
  refine (c.flush_stages hm hsink hkind).bind ?_
  rintro calls outcome ⟨rfl, rfl⟩
  refine Observes.bind_note _ (Observes.pure ?_)
  rw [List.append_nil]
  exact ⟨rfl, rfl⟩

/-- With a single chain at work a flush drains that chain and nothing else. -/
theorem flush_stages (hm : e.Realizes m) {sink : Sink σ} (hsink : sink.Accepts)
    (hlanes : t.lanes = ⟨none, none⟩) (c : Chain b)
    (hkind : c.decode.trackType = c.encode.trackType) :
    Observes ((t.setLane kind (some c)).flush e.onSecond sink.observed)
      ((t.setLane kind (some c)).flush e sink)
      fun calls r => r = (.ok (), t) ∧ calls = taken (m.remaining c) := by
  have hlane : (t.setLane kind (some c)).lanes.get kind = some c := Lanes.get_set_self ..
  -- The other lane is empty, so its drain does nothing.
  have hchain := flushLane_stages hm hsink hlane hkind
  rw [setLane_setLane, setLane_none kind hlanes] at hchain
  unfold flush
  cases kind with
  | audio =>
      have hvideo : t.lanes.get .video = none := by rw [hlanes]; rfl
      refine hchain.bind ?_
      rintro calls ⟨outcome, t'⟩ ⟨heq, rfl⟩
      cases heq
      simp only [flushLane_none _ _ hvideo]
      exact Observes.pure ⟨rfl, List.append_nil _⟩
  | video =>
      have haudio : (t.setLane .video (some c)).lanes.get .audio = none := by
        rw [setLane, Lanes.get_set_of_ne _ (by decide), hlanes]
        rfl
      simp only [flushLane_none _ _ haudio, pure_bind]
      exact hchain

/-- Adding a track puts the chain to work that opens for it, and announces it. -/
theorem addTrack_opened {sink : Sink σ} (hsink : sink.Accepts) {track : Track}
    (hdiffers : track.codec ≠ t.target track.trackType) {w : σ} {c : Chain b}
    (hopen : (Chain.build e track (.ofTrack (t.target track.trackType) track)
      t.config.poolSize.toNat w).value = .ok c) (record : List SinkCall) :
    let alone := t.addTrack e sink track w
    alone.value = (.ok (), t.setLane track.trackType (some c))
      ∧ t.addTrack e.onSecond sink.observed track (record, w)
        = ⟨alone.value, alone.notes, (record ++ [.addTrack c.encode.settings.toTrack (.ok ())],
            alone.world)⟩ := by
  have hsettings := (Chain.codecs_of_build hopen).2
  unfold addTrack
  simp only [if_neg hdiffers, Chain.build_onSecond, Act.bind_apply, Act.onSecond, Sink.observed]
  -- Emptying the lane first changes nothing that the chain is made from.
  have hbuild : (Chain.build e track (.ofTrack (t.target track.trackType) track)
      (t.setLane track.trackType none).config.poolSize.toNat w).value = .ok c := hopen
  rw [hbuild]
  simp only [Act.bind_apply, Act.recorded, hsink.addTrack, setLane_setLane, hsettings]
  exact ⟨rfl, rfl⟩

theorem run_append (e : Engine b σ) (sink : Sink σ) (ops ops' : List Operation) :
    t.run e sink (ops ++ ops')
      = (do
          let (outcomes, t) ← t.run e sink ops
          let (outcomes', t) ← t.run e sink ops'
          return (outcomes ++ outcomes', t)) := by
  -- The induction is on the first part. The transcoder it leaves is that of the second.
  induction ops generalizing t with
  | nil =>
      simp only [List.nil_append, run, pure_bind]
      exact (bind_pure _).symm
  | cons op ops ih => simp only [List.cons_append, run, ih, bind_assoc, pure_bind]

/-- All frames of a stream and then a flush, put into the chain that was opened for it. -/
theorem stream_stages (hm : e.Realizes m) {sink : Sink σ} (hsink : sink.Accepts)
    (hlanes : t.lanes = ⟨none, none⟩) {codec : Codec} (hdiffers : codec ≠ t.target codec.trackType)
    {c : Chain b} (hnew : c.encode.converter = none) (hcodec : c.decode.codec = codec)
    (hkind : c.encode.trackType = codec.trackType) {units : List AccessUnit}
    (hunits : ∀ unit ∈ units, unit.codec = codec) :
    let ops := units.map .inputFrame ++ [.flush]
    Observes ((t.setLane codec.trackType (some c)).run e.onSecond sink.observed ops)
      ((t.setLane codec.trackType (some c)).run e sink ops)
      fun calls r => (∀ outcome ∈ r.1, outcome = .ok ()) ∧ calls = taken (m.staged c units) := by
  intro ops
  rw [run_append, run_append]
  -- All frames first. The chain that is left has the settings it was opened with.
  refine (inputs_stages hm hsink hdiffers c hcodec hkind units hunits).bind ?_
  rintro calls ⟨outcomes, t'⟩ ⟨hoks, c', rfl, hcodec', hencode, rfl, hview⟩
  have hkind' : c'.decode.trackType = c'.encode.trackType := by
    rcases hencode with ⟨context, converter, hencode⟩
    rw [DecodeStage.trackType, hcodec', hencode]
    exact hkind.symm
  simp only [run, perform, bind_assoc, pure_bind]
  -- What the chain still holds comes out by the flush.
  refine (flush_stages hm hsink hlanes c' hkind').bind ?_
  rintro more ⟨outcome, t''⟩ ⟨heq, rfl⟩
  cases heq
  refine Observes.pure ⟨?_, ?_⟩
  · exact List.forall_mem_append.mpr ⟨hoks, fun _ hmem => List.mem_singleton.mp hmem⟩
  · rw [List.append_nil, ← taken_append, Machine.staged_eq hnew hencode hview]

/-- A whole stream, from adding its track to the flush. -/
theorem run_opened (hm : e.Realizes m) {sink : Sink σ} (hsink : sink.Accepts)
    (hlanes : t.lanes = ⟨none, none⟩) {track : Track}
    (hdiffers : track.codec ≠ t.target track.trackType) {w : σ} {c : Chain b}
    (hopen : (Chain.build e track (.ofTrack (t.target track.trackType) track)
      t.config.poolSize.toNat w).value = .ok c) {units : List AccessUnit}
    (hunits : ∀ unit ∈ units, unit.codec = track.codec) :
    let ops := .addTrack track :: (units.map .inputFrame ++ [.flush])
    let alone := t.run e sink ops w
    t.run e.onSecond sink.observed ops ([], w) = ⟨alone.value, alone.notes,
        (.addTrack c.encode.settings.toTrack (.ok ()) :: taken (m.staged c units), alone.world)⟩
      ∧ ∀ outcome ∈ alone.value.1, outcome = .ok () := by
  intro ops alone
  rcases Chain.codecs_of_build hopen with ⟨hcodec, hsettings⟩
  have hkind : c.encode.trackType = track.codec.trackType := by
    rw [EncodeStage.trackType, hsettings, Settings.trackType, Settings.ofTrack_codec]
    exact Config.target_trackType t.usable _
  rcases addTrack_opened hsink hdiffers hopen [] with ⟨hvalue, hadded⟩
  -- The kind of a track is that of its codec.
  change _ = (_, t.setLane track.codec.trackType (some c)) at hvalue
  have hstream := stream_stages hm hsink hlanes hdiffers (Chain.converter_of_build hopen) hcodec
    hkind hunits [.addTrack c.encode.settings.toTrack (.ok ())] (t.addTrack e sink track w).world
  rcases hstream with ⟨entries, heq, hoks, rfl⟩
  simp only [alone, ops, run, perform, Act.bind_apply, hadded, hvalue, List.nil_append, heq]
  exact ⟨rfl, List.forall_mem_cons.mpr ⟨rfl, hoks⟩⟩

/-- Streaming and batches agree. Take an engine that is a set of state machines, a sink
    that refuses nothing and a track that is not in the target codec, and let a chain
    open for it. Adding the track, putting in its frames one by one and flushing tells
    the sink of the track the encoder writes and then of exactly the frames that three
    passes over the whole stream yield, in that order. Nothing ends in a fault. -/
theorem run_eq_staged (config : Config) (start : Transcoder b)
    (hstart : ofConfig config = .ok start)
    (e : Engine b σ) (m : Machine b) (hm : e.Realizes m) (sink : Sink σ) (hsink : sink.Accepts)
    (track : Track) (hdiffers : track.codec ≠ config.target track.trackType) (w : σ) (c : Chain b)
    (hopen : (Chain.build e track (.ofTrack (config.target track.trackType) track)
      config.poolSize.toNat w).value = .ok c) (units : List AccessUnit)
    (hunits : ∀ unit ∈ units, unit.codec = track.codec) :
    let announced := (Settings.ofTrack (config.target track.trackType) track).toTrack
    let ops := .addTrack track :: (units.map .inputFrame ++ [.flush])
    let alone := start.run e sink ops w
    start.run e.onSecond sink.observed ops ([], w)
      = ⟨alone.value, alone.notes, (.addTrack announced (.ok ())
          :: (m.staged c units).map fun unit => .inputFrame unit (.ok ()), alone.world)⟩
      ∧ ∀ outcome ∈ alone.value.1, outcome = .ok () := by
  rcases ofConfig_ok hstart with ⟨rfl, hlanes⟩
  have hrun := run_opened hm hsink hlanes hdiffers hopen hunits
  -- The chain encodes by the settings that it was opened with.
  rw [(Chain.codecs_of_build hopen).2] at hrun
  exact hrun

/-- An H.265 stream with a damaged frame, kept back by decoder and encoder and converted
    in between. The sink gets the other two frames. -/
theorem run_eq_staged_damaged_stream :
    let setup : Loopback.Setup :=
      { decoderDelay := 1, encoderDelay := 1, encoderFormats := [.nv12] }
    let start : Transcoder Loopback.backend :=
      { config := .default, usable := rfl, lanes := ⟨none, none⟩ }
    let track := Track.video .h265 640 480 ⟨0⟩
    let units : List AccessUnit :=
      [⟨.h265, 0, 0, [1]⟩, ⟨.h265, 40, 40, Loopback.corrupt⟩, ⟨.h265, 80, 80, [2]⟩]
    let ops := .addTrack track :: (units.map .inputFrame ++ [.flush])
    (start.run (Loopback.engine setup).onSecond Sink.noting.observed ops ([], {})).world.1
      = [.addTrack (Settings.ofTrack .h264 track).toTrack (.ok ()),
          .inputFrame ⟨.h264, 0, 0, [0, 0, 0, 1, 0x65, 1]⟩ (.ok ()),
          .inputFrame ⟨.h264, 80, 80, [0, 0, 0, 1, 0x41, 2]⟩ (.ok ())] := by
  intro setup start track units ops
  -- The chain that the track opens.
  let c : Chain Loopback.backend :=
    { decode :=
        { codec := .h265
          implementation := "h265"
          context := { kind := .video, track, output := .yuv420p, line := .ofDelay 1 }
          pool := .ofCapacity 8 }
      encode :=
        { settings := .ofTrack .h264 track
          implementation := "libx264"
          context := { kind := .video, formats := [.nv12], line := .ofDelay 1, begun := false }
          formats := [.nv12]
          converter := none
          poolSize := 8 } }
  have hstaged : (Loopback.machine setup).staged c units
      = [⟨.h264, 0, 0, [0, 0, 0, 1, 0x65, 1]⟩, ⟨.h264, 80, 80, [0, 0, 0, 1, 0x41, 2]⟩] := by cbv
  have hrun := run_eq_staged .default start rfl (Loopback.engine setup) (Loopback.machine setup)
    (Loopback.engine_realizes setup) .noting ⟨fun _ _ => rfl, fun _ _ => rfl⟩ track (by decide) {} c
    rfl units (by decide)
  rw [hrun.1, hstaged]
  rfl

end Transcoder

end Recode
