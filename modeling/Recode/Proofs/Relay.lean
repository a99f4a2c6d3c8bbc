import Recode.Proofs.Emission

/-!
# What a chain relays

Everything that a chain tells the sink is a frame in the codec of its encoder, and
every fault that a chain reports is one the sink has answered such a frame with. No
stage makes a fault of its own: packets that cannot be decoded or encoded are dropped
with a note, and a conversion that fails lets the picture pass.

There is one fault that an encode stage could make, the complaint about a frame of the
wrong kind. A decoded frame is of the kind of the codec it was decoded from. So as long
as decoder and encoder of a chain are of one kind, the complaint never comes up.

## Main definitions

* `Relayed`: Calls that pass on frames of one codec, and a fault only if one of them
  was answered with it.

## Theorems

* `Relayed.append`: What is relayed in two parts.
* `EncodeStage.input_relays`, `EncodeStage.flush_relays`: What an encode stage tells
  the sink.
* `Chain.input_relays`, `Chain.flush_relays`: What a chain tells the sink.
-/

namespace Recode

open Act

variable {b : Backend} {σ : Type}

/-- The calls pass on frames of one codec, and the outcome is a fault only if the sink
    answered one of them with it. -/
structure Relayed (codec : Codec) (calls : List SinkCall) (outcome : Except Fault Unit) : Prop where
  frames : ∀ call ∈ calls, ∃ unit answer, call = .inputFrame unit answer ∧ unit.codec = codec
  faults : ∀ fault, outcome = .error fault → ∃ unit, SinkCall.inputFrame unit (.error fault) ∈ calls

namespace Relayed

variable {codec : Codec} {calls more : List SinkCall} {outcome : Except Fault Unit}

theorem nil : Relayed codec [] (.ok ()) := by
  refine ⟨?_, ?_⟩
  · intro call hcall
    exact absurd hcall (List.not_mem_nil)
  · intro fault hfault
    exact absurd hfault (by simp only [reduceCtorEq, not_false_eq_true])

/-- A single frame was passed on, and the outcome is its answer. -/
theorem single {unit : AccessUnit} (hunit : unit.codec = codec) :
    Relayed codec [.inputFrame unit outcome] outcome := by
  refine ⟨?_, ?_⟩
  · intro call hcall
    exact ⟨unit, outcome, List.mem_singleton.mp hcall, hunit⟩
  · rintro fault rfl
    exact ⟨unit, List.mem_singleton.mpr rfl⟩

/-- What is relayed in two parts is relayed. Only the second has ended with a fault, if any. -/
theorem append {answer : Except Fault Unit} (hcalls : Relayed codec calls answer)
    (hmore : Relayed codec more outcome) : Relayed codec (calls ++ more) outcome := by
  refine ⟨?_, ?_⟩
  · intro call hcall
    rcases List.mem_append.mp hcall with hcall | hcall
    · exact hcalls.frames call hcall
    · exact hmore.frames call hcall
  · -- The outcome is that of the second part, so its fault is found there.
    intro fault hfault
    rcases hmore.faults fault hfault with ⟨unit, hunit⟩
    exact ⟨unit, List.mem_append_right _ hunit⟩

theorem cons {unit : AccessUnit} {answer : Except Fault Unit} (hunit : unit.codec = codec)
    (h : Relayed codec calls outcome) : Relayed codec (.inputFrame unit answer :: calls) outcome :=
  (single hunit).append h

theorem ofDelivered {sink : Sink σ} {unit? : Option AccessUnit}
    (hunit : ∀ unit ∈ unit?, unit.codec = codec) (h : Delivered sink unit? calls outcome) :
    Relayed codec calls outcome := by
  cases unit? with
  | none =>
      rcases h with ⟨rfl, rfl⟩
      exact nil
  | some unit =>
      rcases h with ⟨rfl, -⟩
      exact single (hunit unit rfl)

end Relayed

namespace EncodeStage

@[simp] theorem unitOf_codec (s : EncodeStage b) (packet : EncodedPacket)
    (pts dts : Option Int64) : (s.unitOf packet pts dts).codec = s.codec := rfl

/-- An encode stage relays what its encoder makes of the frame, and keeps its settings. -/
theorem input_relays (e : Engine b σ) (sink : Sink σ) (frame : RawFrame b.Store)
    (s : EncodeStage b) (hkind : frame.trackType = s.trackType) :
    Observes (s.input e.onSecond sink.observed.inputFrame frame) (s.input e sink.inputFrame frame)
      fun calls r => Relayed s.codec calls r.1 ∧ r.2.settings = s.settings := by
  -- The converter may have changed on the way, but the settings have not.
  refine (input_observed e sink frame s hkind).mono ?_
  rintro calls ⟨outcome, s'⟩ ⟨w, hr⟩
  rcases s.bring_value e frame w with ⟨converter, hconverter⟩
  rcases hbrought : (s.bring e frame w).value with ⟨_ | picture, brought⟩
  · rw [hbrought] at hr hconverter
    rcases hr with ⟨hs', rfl, rfl⟩
    simp only at hs' hconverter
    exact ⟨.nil, by rw [hs', hconverter]⟩
  · rw [hbrought] at hr hconverter
    rcases hr with ⟨w', hs', hdelivered⟩
    simp only at hs' hconverter
    subst hs' hconverter
    refine ⟨.ofDelivered ?_ hdelivered, rfl⟩
    intro unit hunit
    rcases Option.map_eq_some_iff.mp hunit with ⟨packet, -, rfl⟩
    rfl

theorem flush_relays (e : Engine b σ) (sink : Sink σ) (s : EncodeStage b) :
    Observes (s.flush e.onSecond sink.observed.inputFrame) (s.flush e sink.inputFrame)
      fun calls r => Relayed s.codec calls r.1 := by
  -- A refused frame ends the drain, and one that was taken goes in front of the others.
  refine flush_observed e sink (fun s calls r => Relayed s.codec calls r.1) ?_ ?_ s
  · intro s packet next less w w' _ unit answer
    refine ⟨fun fault hanswer => ?_, fun hanswer more r hr => hr.cons rfl⟩
    rw [hanswer]
    exact .single rfl
  · intro s s' w _
    exact .nil

end EncodeStage

namespace Chain

/-- A decoded frame is of the kind of the codec it was decoded from, so the encoder is
    given frames of its own kind only. -/
theorem consumer_relays (e : Engine b σ) (sink : Sink σ) (encode : EncodeStage b)
    (picture : Picture b.Store) (source : Codec) (hkind : source.trackType = encode.trackType) :
    Observes (consumer e.onSecond sink.observed encode ⟨picture, some source⟩)
      (consumer e sink encode ⟨picture, some source⟩)
      fun calls r => Relayed encode.codec calls r.1.outcome ∧ r.2.settings = encode.settings := by
  refine (EncodeStage.input_relays e sink ⟨picture, some source⟩ encode hkind).bind ?_
  rintro calls ⟨outcome, encode'⟩ ⟨hrelayed, hsettings⟩
  refine Observes.pure ?_
  rw [List.append_nil]
  exact ⟨hrelayed, hsettings⟩

/-- A chain relays what its encoder makes of the frame, and stays between the same codecs. -/
theorem input_relays (e : Engine b σ) (sink : Sink σ) (unit : AccessUnit) (c : Chain b)
    (hkind : unit.trackType = c.encode.trackType) :
    Observes (c.input e.onSecond sink.observed unit) (c.input e sink unit)
      fun calls r => Relayed c.encode.codec calls r.1
        ∧ r.2.encode.settings = c.encode.settings ∧ r.2.decode.codec = c.decode.codec := by
  -- Either the decoder keeps the frame, or what it shows goes to the encoder.
  refine input_observed e sink unit c _ ?_ ?_
  · intro decode w hvalue
    rcases c.decode.input_value e unit w with ⟨blank, w', -, pool, hinput⟩
    rw [hvalue] at hinput
    exact ⟨.nil, rfl, congrArg (fun r => r.2.codec) hinput⟩
  · intro frame decode w hvalue
    rcases c.decode.input_value e unit w with ⟨blank, w', -, pool, hinput⟩
    rw [hvalue] at hinput
    rcases Option.map_eq_some_iff.mp (congrArg Prod.fst hinput).symm with ⟨picture, -, rfl⟩
    refine (consumer_relays e sink c.encode picture unit.codec hkind).mono ?_
    rintro calls ⟨receipt, encode⟩ ⟨hrelayed, hsettings⟩
    refine ⟨hrelayed, hsettings, ?_⟩
    rw [DecodeStage.settle_codec]
    exact congrArg (fun r => r.2.codec) hinput

/-- Draining the decoder relays what the encoder makes of the frames it still held. -/
theorem decode_flush_relays (e : Engine b σ) (sink : Sink σ) (decode : DecodeStage b)
    (encode : EncodeStage b) (hkind : decode.trackType = encode.trackType) :
    Observes (decode.flush e.onSecond (consumer e.onSecond sink.observed) encode)
      (decode.flush e (consumer e sink) encode)
      fun calls r => Relayed encode.codec calls r.1 ∧ r.2.2.settings = encode.settings := by
  refine DecodeStage.flush_observed e (fun decode encode => decode.trackType = encode.trackType)
    (fun _ encode calls r => Relayed encode.codec calls r.1 ∧ r.2.2.settings = encode.settings)
    ?_ ?_ decode encode hkind
  · intro decode encode hkind blank pool picture next less w _ _
    refine (consumer_relays e sink encode picture decode.codec hkind).mono ?_
    rintro calls ⟨receipt, encode'⟩ ⟨hrelayed, hsettings⟩
    refine ⟨fun fault houtcome => ⟨houtcome ▸ hrelayed, hsettings⟩, fun _ => ⟨?_, ?_⟩⟩
    · -- The encoder that takes the next frame has the same settings as before.
      rw [DecodeStage.trackType, DecodeStage.settle_codec, EncodeStage.trackType, hsettings]
      exact hkind
    · rintro more r ⟨hmore, hsettings'⟩
      rw [EncodeStage.codec, hsettings] at hmore
      exact ⟨hrelayed.append hmore, hsettings'.trans hsettings⟩
  · intro decode encode decode' blank w _ _
    exact ⟨.nil, rfl⟩

/-- A drained chain relays all that its two contexts still held. -/
theorem flush_relays (e : Engine b σ) (sink : Sink σ) (c : Chain b)
    (hkind : c.decode.trackType = c.encode.trackType) :
    Observes (c.flush e.onSecond sink.observed) (c.flush e sink)
      fun calls outcome => Relayed c.encode.codec calls outcome := by
  -- The encoder is drained only if the drain of the decoder has come to its end.
  refine (decode_flush_relays e sink c.decode c.encode hkind).bind ?_
  rintro calls ⟨outcome, decode, encode⟩ ⟨hrelayed, hsettings⟩
  cases outcome with
  | error fault =>
      refine Observes.pure ?_
      rw [List.append_nil]
      exact hrelayed
  | ok _ =>
      refine (EncodeStage.flush_relays e sink encode).bind ?_
      rintro more ⟨outcome, encode'⟩ hmore
      refine Observes.pure ?_
      simp only [EncodeStage.codec] at hsettings hmore ⊢
      rw [hsettings] at hmore
      rw [List.append_nil]
      exact hrelayed.append hmore

end Chain

end Recode
