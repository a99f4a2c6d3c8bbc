import Recode.Proofs.Journal

/-!
# What a chain asks

A chain at work leaves a trail in the journal, and this module says what it looks like.
A frame put in costs one call on the decoder, and what follows it are calls made for
the encoder: conversions, at most the encoding of the frame, and telling the sink. A
drain of the decoder alternates between pulls and such calls, and its last pull is the
only one that finds the end. If a fault of the sink cuts the drain short, there is no
such pull at all.

Nothing here depends on what the engine answers. That the pipeline without journal does
the same is said along the way.

## Main definitions

* `Call.Encodes`: A call made to encode a frame.
* `Drained`: The calls of a drain.

## Theorems

* `EncodeStage.input_follows`, `Chain.input_follows`: The calls for a frame put in.
* `EncodeStage.flush_follows`, `Chain.decode_flush_follows`: The calls of a drain.
-/

namespace Recode

open Act

variable {b : Backend} {σ : Type}

namespace ConvertStage

theorem openConversion_follows (e : Engine b σ) (geometry : Geometry) (target : PixelFormat)
    (journal : List (Call b)) :
    Follows (openConversion e.journaled geometry target) journal (openConversion e geometry target)
      fun entries a a' => a' = a.bare ∧ ∀ call ∈ entries, call.Converts := by
  unfold openConversion
  refine (e.openConverter_follows journal geometry target).bind ?_
  rintro _ opened _ ⟨rfl, rfl⟩
  have hasked : ∀ call ∈ [(.openConverter geometry target : Call b)] ++ [],
      call.Converts :=
    List.forall_mem_singleton.mpr trivial
  cases opened with
  | ok context => exact .bind_note _ (.pure ⟨rfl, hasked⟩)
  | error cause => exact .bind_note _ (.pure ⟨rfl, hasked⟩)

/-- A converter is opened for a geometry, or it was before, and nobody is asked. -/
theorem prepare_follows (e : Engine b σ) (geometry : Geometry) (s : ConvertStage b.numbered)
    (journal : List (Call b)) :
    Follows (s.prepare e.journaled geometry) journal (s.bare.prepare e geometry)
      fun entries a a' => a' = a.bare ∧ ∀ call ∈ entries, call.Converts := by
  have hopen := openConversion_follows e geometry s.target journal
  have hnothing : ∀ call ∈ ([] : List (Call b)), call.Converts :=
    List.forall_mem_nil _
  rcases s with ⟨target, conversion, pool⟩
  unfold prepare bare
  -- The last attempt decides whether a converter has to be opened. A refusal is not asked for
  -- twice in a row.
  cases conversion with
  | idle => exact hopen
  | ready context current =>
      by_cases hsame : current = geometry
      · simp only [Conversion.bare, if_pos hsame]
        exact .pure ⟨rfl, hnothing⟩
      · simp only [Conversion.bare, if_neg hsame]
        exact .bind_note _ hopen
  | refused current =>
      by_cases hsame : current = geometry
      · simp only [Conversion.bare, if_pos hsame]
        exact .pure ⟨rfl, hnothing⟩
      · simp only [Conversion.bare, if_neg hsame]
        exact hopen

/-- Converting a frame asks converters, and may make a picture to convert into. -/
theorem convert_follows (e : Engine b σ) (frame : RawFrame b.Store) (s : ConvertStage b.numbered)
    (journal : List (Call b)) :
    Follows (s.convert e.journaled frame) journal (s.bare.convert e frame)
      fun entries a a' => a' = (a.1, a.2.bare) ∧ ∀ call ∈ entries, call.Converts := by
  have hnothing : ∀ call ∈ ([] : List (Call b)), call.Converts :=
    List.forall_mem_nil _
  unfold convert
  cases frame.picture.geometry? with
  | none => exact .pure ⟨rfl, hnothing⟩
  | some geometry =>
      by_cases hsame : geometry.format = s.target
      · have hsame' : geometry.format = s.bare.target := hsame
        simp only [if_pos hsame, if_pos hsame']
        exact .pure ⟨rfl, hnothing⟩
      · have hsame' : ¬geometry.format = s.bare.target := hsame
        simp only [if_neg hsame, if_neg hsame']
        refine (prepare_follows e geometry s journal).bind ?_
        rintro entries conversion _ ⟨rfl, hentries⟩
        have hprepared := List.forall_mem_append.mpr ⟨hentries, hnothing⟩
        cases conversion with
        | idle =>
            simp only [Conversion.bare]
            exact .pure ⟨rfl, hprepared⟩
        | refused geometry =>
            simp only [Conversion.bare]
            exact .pure ⟨rfl, hprepared⟩
        | ready context geometry =>
            simp only [Conversion.bare]
            refine (e.obtain_follows s.pool _).bind ?_
            rintro more ⟨blank, pool⟩ _ ⟨rfl, hmore⟩
            refine (e.convert_follows _ context frame.picture blank).bind ?_
            rintro _ _ converted ⟨rfl, rfl⟩
            have hmore : ∀ call ∈ more, call.Converts :=
              fun call hcall => hmore call hcall ▸ trivial
            have hconverted : ∀ call ∈ entries ++ (more ++ ([.convert frame.picture blank] ++ [])),
                call.Converts := by
              simp only [List.forall_mem_append]
              exact ⟨hentries, hmore, List.forall_mem_singleton.mpr trivial, hnothing⟩
            -- The call was made whether or not it succeeds, so all entries are the same.
            rcases converted with ⟨cause | _, picture, context⟩
            · exact .bind_note _ (.pure ⟨rfl, hconverted⟩)
            · exact .pure ⟨rfl, hconverted⟩

end ConvertStage

/-- Getting a picture back has nothing to do with the number of the decoder. -/
theorem DecodeStage.settle_bare (receipt : Receipt) (picture : Picture b.Store)
    (s : DecodeStage b.numbered) :
    (@settle b.numbered receipt picture s).bare = s.bare.settle receipt picture := by
  unfold settle
  split <;> rfl

/-- Decoding a frame asks the decoder once, with a picture that may have to be made. -/
theorem DecodeStage.input_follows (e : Engine b σ) (unit : AccessUnit)
    (s : DecodeStage b.numbered) (journal : List (Call b)) :
    Follows (s.input e.journaled unit) journal (s.bare.input e unit)
      fun entries a a' => a' = (a.1, a.2.bare) ∧ a.2.codec = s.codec
        ∧ a.2.context.number = s.context.number
        ∧ ∃ before blank, entries
            = before ++ [.decode s.context.number ⟨unit.data, unit.dts, unit.pts⟩ blank]
          ∧ ∀ call ∈ before, call = .fresh := by
  unfold input
  refine (e.obtain_follows s.pool journal).bind ?_
  rintro entries ⟨blank, pool⟩ _ ⟨rfl, hentries⟩
  refine (e.decode_follows _ s.context ⟨unit.data, unit.dts, unit.pts⟩ blank).bind ?_
  rintro _ _ decoded ⟨rfl, rfl⟩
  -- The decoder fails, wants more or has a picture. It was asked once in each case.
  rcases decoded with ⟨cause | _ | _, picture, context⟩
  · exact .bind_note _ (.pure ⟨rfl, rfl, rfl, entries, blank, rfl, hentries⟩)
  · exact .pure ⟨rfl, rfl, rfl, entries, blank, rfl, hentries⟩
  · exact .pure ⟨rfl, rfl, rfl, entries, blank, rfl, hentries⟩

/-- A call made to encode a frame: to convert it, to feed it to the encoder of this number
    or to tell the sink what came out. -/
def Call.Encodes (encoder : Nat) : Call b → Prop
  | .encode n _ => n = encoder
  | .openConverter .. | .convert .. | .fresh | .told (.inputFrame ..) => True
  | _ => False

theorem Call.Converts.encodes {call : Call b} (h : call.Converts) (encoder : Nat) :
    call.Encodes encoder := by
  cases call <;> first | exact trivial | exact h.elim

namespace EncodeStage

theorem converterFor_follows (incoming : PixelFormat) (s : EncodeStage b.numbered)
    (journal : List (Call b)) :
    Follows (s.converterFor incoming) journal (s.bare.converterFor (σ := σ) incoming)
      fun entries a a' => a' = a.bare ∧ entries = [] := by
  rcases s with ⟨settings, implementation, context, formats, converter, poolSize⟩
  unfold converterFor bare
  cases converter with
  | none => exact .bind_note _ (.pure ⟨rfl, rfl⟩)
  | some converter => exact .pure ⟨rfl, rfl⟩

/-- Bringing a frame to the encoder asks converters only. -/
theorem bring_follows (e : Engine b σ) (frame : RawFrame b.Store) (s : EncodeStage b.numbered)
    (journal : List (Call b)) :
    Follows (s.bring e.journaled frame) journal (s.bare.bring e frame)
      fun entries a a' => a' = (a.1, a.2.bare) ∧ a.2.context = s.context
        ∧ ∀ call ∈ entries, call.Converts := by
  have hnothing : ∀ call ∈ ([] : List (Call b)), call.Converts :=
    List.forall_mem_nil _
  unfold bring
  have hkind : s.bare.trackType = s.trackType := rfl
  rw [hkind]
  -- Sound goes to the encoder as it is.
  cases s.trackType with
  | audio => exact .pure ⟨rfl, rfl, hnothing⟩
  | video =>
      cases frame.picture.pixel with
      | none => exact .bind_note _ (.pure ⟨rfl, rfl, hnothing⟩)
      | some incoming =>
          refine (converterFor_follows incoming s journal).bind ?_
          rintro _ converter _ ⟨rfl, rfl⟩
          refine (ConvertStage.convert_follows e frame converter _).bind ?_
          rintro entries ⟨converted?, converter⟩ _ ⟨rfl, hentries⟩
          have hconverted : ∀ call ∈ [] ++ (entries ++ []), call.Converts := by
            rw [List.append_nil]
            exact hentries
          cases converted? with
          | none => exact .pure ⟨rfl, rfl, hconverted⟩
          | some converted => exact .pure ⟨rfl, rfl, hconverted⟩

/-- Encoding a picture asks the encoder once. -/
theorem encode_follows (e : Engine b σ) (sink : Sink σ) (picture : Picture b.Store)
    (s : EncodeStage b.numbered) (journal : List (Call b)) :
    Follows (encode e.journaled sink.journaled.inputFrame picture s) journal
      (encode e sink.inputFrame picture s.bare)
      fun entries a a' => a' = (a.1, a.2.bare) ∧ a.2.context.number = s.context.number
        ∧ ∃ after, entries = .encode s.context.number picture :: after
          ∧ ∀ call ∈ after, ∃ unit answer, call = .told (.inputFrame unit answer) := by
  unfold encode
  refine (e.encode_follows journal s.context picture).bind ?_
  rintro _ _ encoded ⟨rfl, rfl⟩
  rcases encoded with ⟨cause | _ | packet, context⟩
  · exact .bind_note _ (.pure ⟨rfl, rfl, [], rfl, List.forall_mem_nil _⟩)
  · exact .pure ⟨rfl, rfl, [], rfl, List.forall_mem_nil _⟩
  · -- A packet came out, and the sink is told of it behind the call on the encoder.
    refine (sink.inputFrame_follows _ _).bind ?_
    rintro _ answer _ ⟨rfl, rfl⟩
    exact .pure ⟨rfl, rfl, [.told (.inputFrame _ answer)], rfl,
      fun call hcall => ⟨_, answer, List.mem_singleton.mp hcall⟩⟩

/-- Every call for a frame put into an encode stage is made to encode it. A frame of the
    other kind costs none. -/
theorem input_follows (e : Engine b σ) (sink : Sink σ) (frame : RawFrame b.Store)
    (s : EncodeStage b.numbered) (journal : List (Call b)) :
    Follows (s.input e.journaled sink.journaled.inputFrame frame) journal
      (s.bare.input e sink.inputFrame frame)
      fun entries a a' => a' = (a.1, a.2.bare) ∧ a.2.context.number = s.context.number
        ∧ ∀ call ∈ entries, call.Encodes s.context.number := by
  have hnothing : ∀ call ∈ ([] : List (Call b)), call.Encodes s.context.number :=
    List.forall_mem_nil _
  by_cases hkind : frame.trackType = s.trackType
  · have hkind' : frame.trackType = s.bare.trackType := hkind
    rw [input_eq _ _ _ _ hkind, input_eq _ _ _ _ hkind']
    refine (bring_follows e frame s journal).bind ?_
    rintro entries ⟨picture?, brought⟩ _ ⟨rfl, hcontext, hentries⟩
    have hentries : ∀ call ∈ entries, call.Encodes s.context.number :=
      fun call hcall => (hentries call hcall).encodes _
    simp only at hcontext
    -- The frame may be lost on its way. Then only converters were asked.
    cases picture? with
    | none =>
        refine .pure ⟨rfl, by rw [hcontext], List.forall_mem_append.mpr ⟨hentries, hnothing⟩⟩
    | some picture =>
        refine (encode_follows e sink picture brought _).mono ?_
        rintro more a a' ⟨rfl, hnumber, after, rfl, hafter⟩
        rw [hcontext] at hnumber
        refine ⟨rfl, hnumber, List.forall_mem_append.mpr ⟨hentries, ?_⟩⟩
        rw [hcontext]
        refine List.forall_mem_cons.mpr ⟨rfl, fun call hcall => ?_⟩
        rcases hafter call hcall with ⟨unit, answer, rfl⟩
        trivial
  · have hkind' : ¬frame.trackType = s.bare.trackType := hkind
    unfold input
    simp only [if_neg hkind, if_neg hkind']
    exact .pure ⟨rfl, rfl, hnothing⟩

end EncodeStage

/-- The calls of a drain. The pull that finds the end is the last call, and only a fault
    can prevent it. -/
def Drained (during last : Call b → Prop) (entries : List (Call b)) :
    Except Fault Unit → Prop
  | .ok _ => ∃ before call, entries = before ++ [call] ∧ (∀ c ∈ before, during c) ∧ last call
  | .error _ => ∀ c ∈ entries, during c

/-- There may have been more calls before. -/
theorem Drained.append {during last : Call b → Prop} {entries more : List (Call b)}
    {outcome : Except Fault Unit} (hentries : ∀ call ∈ entries, during call)
    (h : Drained during last more outcome) : Drained during last (entries ++ more) outcome := by
  cases outcome with
  | error fault => exact List.forall_mem_append.mpr ⟨hentries, h⟩
  | ok _ =>
      rcases h with ⟨before, call, rfl, hbefore, hcall⟩
      exact ⟨entries ++ before, call, (List.append_assoc ..).symm,
        List.forall_mem_append.mpr ⟨hentries, hbefore⟩, hcall⟩

/-- A call made to drain the encoder of this number, but for the last. -/
def Call.DrainsEncoder (encoder : Nat) : Call b → Prop
  | .drainEncoder n ended => n = encoder ∧ ended = false
  | .told (.inputFrame ..) => True
  | _ => False

/-- Draining an encoder. -/
theorem EncodeStage.flush_follows (e : Engine b σ) (sink : Sink σ) (s : EncodeStage b.numbered)
    (journal : List (Call b)) :
    Follows (s.flush e.journaled sink.journaled.inputFrame) journal
      (s.bare.flush e sink.inputFrame)
      fun entries a a' => a' = (a.1, a.2.bare)
        ∧ Drained (Call.DrainsEncoder s.context.number)
            (· = .drainEncoder s.context.number true) entries a.1 := by
  -- The induction is on what the encoder still holds.
  induction s using EncodeStage.flush.induct generalizing journal with
  | case1 s ih =>
      rw [EncodeStage.flush, EncodeStage.flush]
      refine (e.drainEncoder_follows journal s.context).bind ?_
      rintro _ _ pull ⟨rfl, rfl⟩
      rcases pull with ⟨packet, next, less⟩ | next | ⟨cause, next⟩
      · -- A packet came out. The drain goes on unless the sink refuses it.
        refine (sink.inputFrame_follows _ (s.unitOf packet none none)).bind ?_
        rintro _ answer _ ⟨rfl, rfl⟩
        have hpulled : ∀ call ∈ [(.drainEncoder s.context.number false : Call b)]
            ++ [.told (.inputFrame (s.unitOf packet none none) answer)],
            call.DrainsEncoder s.context.number :=
          List.forall_mem_cons.mpr ⟨⟨rfl, rfl⟩, List.forall_mem_singleton.mpr trivial⟩
        cases answer with
        | error fault =>
            refine .pure ⟨rfl, ?_⟩
            rw [List.append_nil]
            exact hpulled
        | ok _ =>
            refine (ih ⟨s.context.number, next⟩ less _).mono ?_
            rintro more a a' ⟨rfl, hmore⟩
            rw [← List.append_assoc]
            exact ⟨rfl, hmore.append hpulled⟩
      · exact .pure ⟨rfl, [], _, rfl, List.forall_mem_nil _, rfl⟩
      · refine .bind_note _ (.pure ⟨rfl, [], _, rfl, ?_, rfl⟩)
        exact List.forall_mem_nil _

/-- A call made to drain the decoder of one number into the encoder of another, but for the
    last. -/
def Call.DrainsDecoder (decoder encoder : Nat) (call : Call b) : Prop :=
  (∃ blank, call = .drainDecoder decoder blank false) ∨ call.Encodes encoder

/-- The pull that finds the end of this decoder. -/
def Call.EndsDecoder (decoder : Nat) (call : Call b) : Prop :=
  ∃ blank, call = .drainDecoder decoder blank true

/-- The calls of the drain of a chain. A fault may cut short the drain of the decoder, and
    then the encoder is not drained. -/
inductive Flushed (decoder encoder : Nat) : List (Call b) → Except Fault Unit → Prop where
  | cutShort {entries : List (Call b)} {fault : Fault}
      (drained : Drained (Call.DrainsDecoder decoder encoder) (Call.EndsDecoder decoder) entries
        (.error fault)) : Flushed decoder encoder entries (.error fault)
  | through {entries more : List (Call b)} {outcome : Except Fault Unit}
      (drained : Drained (Call.DrainsDecoder decoder encoder) (Call.EndsDecoder decoder) entries
        (.ok ()))
      (encoded : Drained (Call.DrainsEncoder encoder) (· = .drainEncoder encoder true) more
        outcome) : Flushed decoder encoder (entries ++ more) outcome

namespace Chain

theorem consumer_follows (e : Engine b σ) (sink : Sink σ) (frame : RawFrame b.Store)
    (encode : EncodeStage b.numbered) (journal : List (Call b)) :
    Follows (consumer e.journaled sink.journaled encode frame) journal
      (consumer e sink encode.bare frame)
      fun entries a a' => a' = (a.1, a.2.bare)
        ∧ a.2.context.number = encode.context.number
        ∧ ∀ call ∈ entries, call.Encodes encode.context.number := by
  refine (encode.input_follows e sink frame journal).bind ?_
  rintro entries ⟨outcome, encode'⟩ _ ⟨rfl, hnumber, hentries⟩
  exact .pure ⟨rfl, hnumber, by rw [List.append_nil]; exact hentries⟩

/-- A frame put into a chain costs one call on its decoder. All calls after it are made to
    encode what comes out. -/
theorem input_follows (e : Engine b σ) (sink : Sink σ) (unit : AccessUnit)
    (c : Chain b.numbered) (journal : List (Call b)) :
    Follows (c.input e.journaled sink.journaled unit) journal (c.bare.input e sink unit)
      fun entries a a' => a' = (a.1, a.2.bare) ∧ a.2.decode.codec = c.decode.codec
        ∧ a.2.decoder = c.decoder ∧ a.2.encoder = c.encoder
        ∧ ∃ before blank after, entries
            = before ++ .decode c.decoder ⟨unit.data, unit.dts, unit.pts⟩ blank :: after
          ∧ (∀ call ∈ before, call = .fresh) ∧ ∀ call ∈ after, call.Encodes c.encoder := by
  unfold input DecodeStage.feed
  simp only [bind_assoc]
  refine (c.decode.input_follows e unit journal).bind ?_
  rintro _ ⟨frame?, decode⟩ _ ⟨rfl, hcodec, hnumber, before, blank, rfl, hbefore⟩
  -- Without a decoded frame the call on the decoder was the last.
  cases frame? with
  | none =>
      simp only [pure_bind]
      refine .pure ⟨rfl, hcodec, hnumber, rfl, before, blank, [], ?_, hbefore, ?_⟩
      · rw [List.append_nil]
        rfl
      · exact List.forall_mem_nil _
  | some frame =>
      simp only [bind_assoc, pure_bind]
      refine (consumer_follows e sink frame c.encode _).bind ?_
      rintro after ⟨receipt, encode⟩ _ ⟨rfl, hencoder, hafter⟩
      refine .pure ⟨?_, ?_, ?_, hencoder, before, blank, after, ?_, hbefore, hafter⟩
      · simp only [bare]
        rw [DecodeStage.settle_bare]
      · rw [DecodeStage.settle_codec]
        exact hcodec
      · simp only [decoder, DecodeStage.settle_context]
        exact hnumber
      · simp only [List.append_assoc, List.append_nil]
        rfl

/-- Draining the decoder into the encoder. -/
theorem decode_flush_follows (e : Engine b σ) (sink : Sink σ) (decode : DecodeStage b.numbered)
    (encode : EncodeStage b.numbered) (journal : List (Call b)) :
    Follows (decode.flush e.journaled (consumer e.journaled sink.journaled) encode) journal
      (decode.bare.flush e (consumer e sink) encode.bare)
      fun entries a a' => a' = (a.1, a.2.1.bare, a.2.2.bare)
        ∧ a.2.2.context.number = encode.context.number
        ∧ Drained (Call.DrainsDecoder decode.context.number encode.context.number)
            (Call.EndsDecoder decode.context.number) entries a.1 := by
  -- The induction is on what the decoder still holds.
  induction decode, encode using DecodeStage.flush.induct generalizing journal with
  | case1 decode encode ih =>
      rw [DecodeStage.flush, DecodeStage.flush]
      refine (e.obtain_follows decode.pool journal).bind ?_
      rintro entries ⟨blank, pool⟩ _ ⟨rfl, hentries⟩
      refine (e.drainDecoder_follows _ decode.context blank).bind ?_
      rintro _ _ drained ⟨rfl, rfl⟩
      have hmade : ∀ call ∈ entries, call.DrainsDecoder decode.context.number
          encode.context.number := by
        intro call hcall
        rw [hentries call hcall]
        exact .inr trivial
      -- A pull that finds the end, or fails, is the last call of the drain.
      have hended (more : List (Call b)) (hmore : more = []) :
          Drained (Call.DrainsDecoder decode.context.number encode.context.number)
            (Call.EndsDecoder decode.context.number)
            (entries ++ ([.drainDecoder decode.context.number blank true] ++ more)) (.ok ()) := by
        rw [hmore, List.append_nil]
        exact ⟨entries, _, rfl, hmade, blank, rfl⟩
      rcases drained with ⟨picture, ⟨⟨⟩, next, less⟩ | next | ⟨cause, next⟩⟩
      · -- A frame came out. The drain goes on unless its consumer reports a fault.
        refine (consumer_follows e sink ⟨picture, some decode.codec⟩ encode _).bind ?_
        rintro delivered ⟨⟨outcome, kept⟩, encode'⟩ _ ⟨rfl, hnumber, hdelivered⟩
        have hpulled : ∀ call ∈ entries ++ ([.drainDecoder decode.context.number blank false]
            ++ delivered), call.DrainsDecoder decode.context.number encode.context.number :=
          List.forall_mem_append.mpr ⟨hmade, List.forall_mem_append.mpr
            ⟨List.forall_mem_singleton.mpr (.inl ⟨blank, rfl⟩),
              fun call hcall => .inr (hdelivered call hcall)⟩⟩
        cases outcome with
        | error fault =>
            refine .pure ⟨?_, hnumber, ?_⟩
            · rw [DecodeStage.settle_bare]
              rfl
            · rw [List.append_nil]
              exact hpulled
        | ok _ =>
            -- What is left of the drain is begun with the decoder as it came back, under its
            -- number.
            have hrest := fun journal => ih pool ⟨picture, .empty ⟨decode.context.number, next⟩⟩
              ⟨decode.context.number, next⟩ less ⟨.ok (), kept⟩ encode' journal
            simp only [DecodeStage.settle_bare, DecodeStage.settle_context] at hrest
            refine (hrest _).mono ?_
            rintro more a a' ⟨rfl, hnumber', hmore⟩
            refine ⟨rfl, hnumber'.trans hnumber, ?_⟩
            rw [hnumber] at hmore
            rw [← List.append_assoc [_], ← List.append_assoc entries]
            exact hmore.append hpulled
      · exact .pure ⟨rfl, rfl, hended _ rfl⟩
      · exact .bind_note _ (.pure ⟨rfl, rfl, hended _ rfl⟩)

/-- Draining a chain drains its decoder, and its encoder only if the drain of the decoder has
    come to its end. -/
theorem flush_follows (e : Engine b σ) (sink : Sink σ) (c : Chain b.numbered)
    (journal : List (Call b)) :
    Follows (c.flush e.journaled sink.journaled) journal (c.bare.flush e sink)
      fun entries a a' => a' = a ∧ Flushed c.decoder c.encoder entries a := by
  unfold flush
  refine (decode_flush_follows e sink c.decode c.encode journal).bind ?_
  rintro entries ⟨outcome, decode, encode⟩ _ ⟨rfl, hnumber, hdrained⟩
  cases outcome with
  | error fault =>
      refine .pure ⟨rfl, ?_⟩
      rw [List.append_nil]
      -- The fault is what the whole drain reports, and nothing is asked of the encoder.
      exact .cutShort hdrained
  | ok _ =>
      refine (encode.flush_follows e sink _).bind ?_
      rintro more ⟨outcome, encode'⟩ _ ⟨rfl, hencoded⟩
      simp only at hnumber
      rw [hnumber, ← List.append_nil more] at hencoded
      exact .pure ⟨rfl, .through hdrained hencoded⟩

end Chain

end Recode
