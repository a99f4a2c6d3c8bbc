import Recode.Proofs.Conversion
import Recode.Proofs.Opening

/-!
# The format an encoder is fed

A video encoder takes certain pixel formats. Which of them it is fed is settled by the
first picture that says what format it is in, and never again. What is settled is the
target of the converter, and the converter comes into being at that moment. So an
encode stage has a converter if and only if something is settled.

Two kinds of frames are turned away before they get that far, and these leave no trace
at all. Every other frame goes through the converter, and so the converter has been
through exactly the frames that propose a format. This is the invariant. What is known
of converters then tells in which format a picture arrives at the encoder.

Whether a conversion does what it should is up to the engine. That it does is a
condition on the record.

## Main definitions

* `RawFrame.proposal`: The format that a frame proposes.
* `settle?`: What is settled when a format is proposed.
* `KeepsPromises`: Conversions yield the format they were opened for.
* `EncodeStage.Taken`: What becomes of a single frame.
* `EncodeStage.Settled`: What a stage holds goes with the past.
* `EncodeStage.Reached`: What an encode stage may have been through.

## Theorems

* `EncodeStage.input_asks`, `EncodeStage.flush_asks`: What an encode stage asks for.
* `EncodeStage.Settled.taken`: What a frame preserves.
* `EncodeStage.Reached.settled`: What a whole sequence of frames and drains preserves.
* `EncodeStage.negotiates_once`: The format is settled once, and pictures are in it.
-/

namespace Recode

open Act

variable {b : Backend} {σ : Type}

/-- The format that a frame proposes to an encoder: that of its picture, if it is known. Sound
    proposes nothing. -/
def RawFrame.proposal {Store : Type} (f : RawFrame Store) : Option PixelFormat :=
  if f.trackType = .video then f.picture.pixel else none

theorem RawFrame.proposal_of_video {Store : Type} {f : RawFrame Store}
    (h : f.trackType = .video) : f.proposal = f.picture.pixel :=
  if_pos h

theorem RawFrame.proposal_of_sound {Store : Type} {f : RawFrame Store}
    (h : f.trackType ≠ .video) : f.proposal = none :=
  if_neg h

/-- What is settled when a format is proposed to an encoder that takes some formats: that format,
    or else the preferred one, or else the first one, of those that the encoder takes. -/
def settle? (formats : List PixelFormat) (proposed : PixelFormat) : Option PixelFormat :=
  if proposed ∈ formats then some proposed
  else if .preferred ∈ formats then some .preferred
  else formats.head?

/-- What is settled is a format that the encoder takes. -/
theorem settle?_mem {formats : List PixelFormat} {proposed format : PixelFormat}
    (h : settle? formats proposed = some format) : format ∈ formats := by
  unfold settle? at h
  split at h
  · next hproposed =>
      cases h
      exact hproposed
  · split at h
    · next hpreferred =>
        cases h
        exact hpreferred
    · exact List.mem_of_mem_head? h

theorem RawFrame.eq_of_wants_none {Store : Type} {target format : PixelFormat}
    {f : RawFrame Store} (h : f.wants target = none) (hformat : f.picture.pixel = some format) :
    format = target := by
  simpa [wants, Picture.geometry?, hformat] using h

/-- Converting a picture does not ask the encoder. -/
theorem Converting.encode_not_mem {e : Engine b σ} {frame : RawFrame b.Store} {s : ConvertStage b}
    {more : List (EngineCall b)} {r : Option (RawFrame b.Store) × ConvertStage b}
    (h : Converting e frame s more r) (context : b.Encoder) (picture : Picture b.Store) :
    .encode context picture ∉ more := by
  have hprepared {geometry : Geometry} {asked : List (EngineCall b)} {conversion : Conversion b}
      (h : Prepared s geometry asked conversion) : .encode context picture ∉ asked := by
    cases h <;> simp
  -- Whatever becomes of the frame, a converter only talks to converters and to the pool.
  cases h with
  | needless unwanted => exact List.not_mem_nil
  | refused wanted prepared => exact hprepared prepared
  | @ran geometry asked made current blank pool wanted prepared fresh obtained answer =>
      have hmade : .encode context picture ∉ made := fun hmem => nomatch fresh _ hmem
      simp [hprepared prepared, hmade]

/-- Successful conversions yield the format that their contexts were opened for. -/
def KeepsPromises (calls : List (EngineCall b)) : Prop :=
  ∀ context source blank answer geometry target,
    .convert context source blank answer ∈ calls → OpenedFor geometry target calls context →
      answer.outcome.isOk = true → answer.picture.pixel = some target

namespace EncodeStage

/-- An encoder that takes some format is fed one that it takes. -/
theorem settle?_formats {s : EncodeStage b} (h : s.formats ≠ []) (incoming : PixelFormat) :
    settle? s.formats incoming = some (s.negotiate incoming) := by
  unfold settle? negotiate
  -- Both go through the same three choices, and the last needs a first format.
  split
  · rfl
  · split
    · rfl
    · rcases hformats : s.formats with _ | ⟨first, rest⟩
      · exact absurd hformats h
      · rfl

/-- The converter that a picture of the given format goes through. -/
def working (s : EncodeStage b) (incoming : PixelFormat) : ConvertStage b :=
  s.converter.getD (.build (s.negotiate incoming) s.poolSize)

theorem converterFor_working (incoming : PixelFormat) (s : EncodeStage b) (w : σ) :
    (s.converterFor incoming w).value = s.working incoming := by
  unfold converterFor working
  cases s.converter <;> rfl

/-- What becomes of a frame in a video encoder: the calls made for it, its outcome and what the
    stage is left with. -/
inductive Taken (e : Engine b σ) (frame : RawFrame b.Store) (s : EncodeStage b) :
    List (EngineCall b) → Except Fault Unit × EncodeStage b → Prop where
  /-- It is no picture, which is a mistake of whoever sent it. -/
  | mismatched (other : frame.trackType ≠ s.trackType) :
      Taken e frame s [] (.error (.trackTypeMismatch s.trackType frame.trackType), s)
  /-- It is a picture in no known format. -/
  | formatless (same : frame.trackType = s.trackType) (unknown : frame.picture.pixel = none) :
      Taken e frame s [] (.ok (), s)
  /-- It has gone through the converter and then to the encoder. -/
  | encoded {incoming : PixelFormat} {more : List (EngineCall b)}
      {converted? : Option (RawFrame b.Store)} {converter : ConvertStage b}
      (same : frame.trackType = s.trackType) (known : frame.picture.pixel = some incoming)
      (converting : Converting e frame (s.working incoming) more (converted?, converter))
      (outcome : Except Fault Unit) (context : b.Encoder) :
      Taken e frame s (more ++ [.encode s.context (converted?.getD frame).picture])
        (outcome, { s with
          context, converter := some (converted?.elim converter (converter.release ·.picture)) })

/-- No frame changes the formats to choose from. -/
theorem Taken.formats_eq {e : Engine b σ} {frame : RawFrame b.Store} {s : EncodeStage b}
    {more : List (EngineCall b)} {r : Except Fault Unit × EncodeStage b}
    (h : Taken e frame s more r) : r.2.formats = s.formats := by
  cases h <;> rfl

/-- Encoding a picture asks the encoder once. -/
theorem encode_asks (e : Engine b σ) (emit : Emitter σ) (picture : Picture b.Store)
    (s : EncodeStage b) :
    Observes (encode e.observed (fun unit => (emit unit).onSecond) picture s)
      (encode e emit picture s) fun more r =>
        more = [.encode s.context picture] ∧ ∃ context, r.2 = { s with context } := by
  unfold encode
  refine (Observes.recorded (e.encode s.context picture) fun _ =>
    EngineCall.encode s.context picture).bind ?_
  rintro _ encoded ⟨rfl, -⟩
  rcases encoded with ⟨cause | _ | packet, context⟩
  · exact .bind_note _ (.pure ⟨rfl, context, rfl⟩)
  · exact .pure ⟨rfl, context, rfl⟩
  · exact .bind_silent fun w' => .pure ⟨rfl, context, rfl⟩

/-- What a video encoder asks for when a frame comes in, and what becomes of it. -/
theorem input_asks (e : Engine b σ) (emit : Emitter σ) (frame : RawFrame b.Store)
    (s : EncodeStage b) (hvideo : s.trackType = .video) :
    Observes (s.input e.observed (fun unit => (emit unit).onSecond) frame) (s.input e emit frame)
      (Taken e frame s) := by
  unfold input
  by_cases hkind : frame.trackType = s.trackType
  · simp only [if_pos hkind]
    rw [show frame.trackType = .video from hkind.trans hvideo]
    cases hpixel : frame.picture.pixel with
    | none => exact .bind_note _ (.pure (.formatless hkind hpixel))
    | some incoming =>
        simp only [encodeVideo]
        rw [converterFor_onSecond]
        refine .bind_silent fun w => ?_
        rw [converterFor_working]
        refine (ConvertStage.convert_observed e frame (s.working incoming)).bind ?_
        -- The picture that is encoded is the converted one, if there is one.
        rintro more ⟨_ | converted, converter⟩ hconverting
        · refine (encode_asks e emit _ _).mono ?_
          rintro _ ⟨outcome, after⟩ ⟨rfl, context, rfl⟩
          exact .encoded hkind hpixel hconverting outcome context
        · refine (encode_asks e emit _ _).bind ?_
          rintro _ ⟨outcome, after⟩ ⟨rfl, context, rfl⟩
          refine .pure ?_
          rw [List.append_nil]
          exact .encoded hkind hpixel hconverting outcome context
  · simp only [if_neg hkind]
    exact .pure (.mismatched hkind)

/-- Draining asks the encoder for what it still holds, and nothing else. -/
theorem flush_asks (e : Engine b σ) (emit : Emitter σ) (s : EncodeStage b) :
    Observes (s.flush e.observed (fun unit => (emit unit).onSecond)) (s.flush e emit)
      fun more r => (∀ call ∈ more, ∃ context, call = .drainEncoder context)
        ∧ ∃ context, r.2 = { s with context } := by
  -- The induction is on what the encoder still holds.
  induction s using EncodeStage.flush.induct with
  | case1 s ih =>
      have hasked : ∀ call ∈ [(.drainEncoder s.context : EngineCall b)],
          ∃ context, call = .drainEncoder context :=
        List.forall_mem_singleton.mpr ⟨s.context, rfl⟩
      rw [EncodeStage.flush, EncodeStage.flush]
      refine (Observes.recorded (e.drainEncoder s.context) fun _ =>
        EngineCall.drainEncoder s.context).bind ?_
      rintro _ pull ⟨rfl, -⟩
      rcases pull with ⟨packet, next, less⟩ | next | ⟨cause, next⟩
      · -- Whether the drain goes on is up to the receiver of the packet.
        refine .bind_silent fun w' => ?_
        cases (emit (s.unitOf packet none none) w').value with
        | error fault => exact .pure ⟨hasked, next, rfl⟩
        | ok _ =>
            refine (ih next less).mono ?_
            rintro more r ⟨hmore, context, hr⟩
            exact ⟨List.forall_mem_cons.mpr ⟨⟨s.context, rfl⟩, hmore⟩, context, hr⟩
      · exact .pure ⟨hasked, next, rfl⟩
      · exact .bind_note _ (.pure ⟨hasked, next, rfl⟩)

/-- A video encoder goes with the frames that have come in and with the record of the calls. -/
structure Settled (settings : Settings) (frames : List (RawFrame b.Store))
    (calls : List (EngineCall b)) (s : EncodeStage b) : Prop where
  settings_eq : s.settings = settings
  formats_ne : s.formats ≠ []
  /-- Without a converter nothing was proposed, and no conversion asked for. -/
  unsettled : s.converter = none →
    frames.findSome? RawFrame.proposal = none ∧ openings calls = []
  /-- A converter has for its target what the first format that was proposed has settled, and all
      the frames that proposed a format have gone through it. -/
  settled : ∀ converter, s.converter = some converter → ∃ target,
    (frames.findSome? RawFrame.proposal).bind (settle? s.formats) = some target
      ∧ converter.Fits target (frames.filter (·.proposal.isSome)) calls

namespace Settled

variable {settings : Settings} {frames : List (RawFrame b.Store)} {frame : RawFrame b.Store}
  {calls more : List (EngineCall b)} {s : EncodeStage b} {incoming : PixelFormat}

theorem trackType_eq (h : s.Settled settings frames calls) : s.trackType = settings.trackType := by
  rw [trackType, h.settings_eq]

/-- The first format that was proposed has settled everything. -/
theorem negotiated_eq (h : s.Settled settings frames calls) :
    s.negotiated = (frames.findSome? RawFrame.proposal).bind (settle? s.formats) := by
  unfold negotiated
  -- With a converter its target says what was settled, and without one there was nothing.
  cases hs : s.converter with
  | none =>
      rw [(h.unsettled hs).1]
      rfl
  | some converter =>
      rcases h.settled converter hs with ⟨target, hsettled, hfits⟩
      rw [hsettled, Option.map_some, hfits.target_eq]

/-- The converter that the next picture goes through fits, if it was there or not, and has the
    settled format for its target. -/
theorem working (h : s.Settled settings frames calls) (hproposal : frame.proposal = some incoming) :
    ∃ target, ((frames ++ [frame]).findSome? RawFrame.proposal).bind (settle? s.formats)
        = some target
      ∧ (s.working incoming).Fits target (frames.filter (·.proposal.isSome)) calls := by
  unfold EncodeStage.working
  cases hs : s.converter with
  | none =>
      -- This frame is the first to propose anything, so the new converter has no past.
      rcases h.unsettled hs with ⟨hnone, hcalls⟩
      refine ⟨s.negotiate incoming, ?_, ?_⟩
      · simp [List.findSome?_append, hnone, hproposal, settle?_formats h.formats_ne]
      · have hfilter : frames.filter (·.proposal.isSome) = [] := by
          simpa [List.findSome?_eq_none_iff] using hnone
        rw [hfilter]
        exact (ConvertStage.Fits.build _ _).append hcalls
  | some converter =>
      rcases h.settled converter hs with ⟨target, hsettled, hfits⟩
      refine ⟨target, ?_, hfits⟩
      rcases hfirst : frames.findSome? RawFrame.proposal with _ | first
      · rw [hfirst] at hsettled
        cases hsettled
      · rw [hfirst] at hsettled
        rw [List.findSome?_append, hfirst]
        exact hsettled

/-- A frame that proposes nothing changes nothing. -/
theorem skip (h : s.Settled settings frames calls) (hproposal : frame.proposal = none) :
    s.Settled settings (frames ++ [frame]) calls := by
  -- It is not the first to propose anything, and it does not get to the converter.
  have hfirst : (frames ++ [frame]).findSome? RawFrame.proposal
      = frames.findSome? RawFrame.proposal := by
    simp [List.findSome?_append, hproposal]
  have hfilter : (frames ++ [frame]).filter (·.proposal.isSome)
      = frames.filter (·.proposal.isSome) := by
    simp [List.filter_append, hproposal]
  refine ⟨h.settings_eq, h.formats_ne, ?_, ?_⟩
  · rw [hfirst]
    exact h.unsettled
  · rw [hfirst, hfilter]
    exact h.settled

/-- What a frame preserves. -/
theorem taken {e : Engine b σ} {r : Except Fault Unit × EncodeStage b}
    (h : s.Settled settings frames calls) (hvideo : settings.trackType = .video)
    (htaken : Taken e frame s more r) :
    r.2.Settled settings (frames ++ [frame]) (calls ++ more) := by
  rw [← h.trackType_eq] at hvideo
  -- Two kinds of frames are turned away and propose nothing.
  cases htaken with
  | mismatched other =>
      rw [List.append_nil]
      exact h.skip (RawFrame.proposal_of_sound (hvideo ▸ other))
  | formatless same unknown =>
      rw [List.append_nil]
      exact h.skip ((RawFrame.proposal_of_video (same.trans hvideo)).trans unknown)
  | @encoded incoming asked converted? converter same known converting outcome context =>
      have hproposal := (RawFrame.proposal_of_video (same.trans hvideo)).trans known
      rcases h.working hproposal with ⟨target, hsettled, hfits⟩
      have hpassed : (frames ++ [frame]).filter (·.proposal.isSome)
          = frames.filter (·.proposal.isSome) ++ [frame] := by
        simp [List.filter_append, hproposal]
      refine ⟨h.settings_eq, h.formats_ne, fun hnone => ?_, fun after hsame => ?_⟩
      · cases hnone
      · cases hsame
        refine ⟨target, hsettled, ?_⟩
        rw [hpassed, ← List.append_assoc]
        -- The call on the encoder comes last, and it opens nothing.
        refine ConvertStage.Fits.append ?_ rfl
        have hafter := converting.fits hfits
        cases converted? with
        | none => exact hafter
        | some converted => exact hafter.release converted.picture

/-- A picture that is encoded is in the settled format, unless it is the one that came in and its
    conversion could not be opened, or failed when it was run. -/
theorem pixel_eq {e : Engine b σ} {r : Except Fault Unit × EncodeStage b}
    (h : s.Settled settings frames calls) (hvideo : settings.trackType = .video)
    (htaken : Taken e frame s more r) (hkeeps : KeepsPromises (calls ++ more))
    {context : b.Encoder} {picture : Picture b.Store} (hcall : .encode context picture ∈ more) :
    picture.pixel = r.2.negotiated
      ∨ picture = frame.picture
        ∧ ((∃ geometry target, r.2.negotiated = some target ∧ frame.wants target = some geometry
            ∧ (openings (calls ++ more)).getLast? = some ((geometry, target), false))
          ∨ ∃ context blank answer, .convert context frame.picture blank answer ∈ more
            ∧ answer.outcome.isOk = false) := by
  rw [← h.trackType_eq] at hvideo
  cases htaken with
  | mismatched other => cases hcall
  | formatless same unknown => cases hcall
  | @encoded incoming asked converted? converter same known converting outcome next =>
      have hproposal := (RawFrame.proposal_of_video (same.trans hvideo)).trans known
      rcases h.working hproposal with ⟨target, hsettled, hfits⟩
      have htarget : (converted?.elim converter (converter.release ·.picture)).target = target := by
        cases converted? <;> exact (converting.fits hfits).target_eq
      -- The only call on the encoder is the last one.
      have hpicture : picture = (converted?.getD frame).picture := by
        rcases List.mem_append.mp hcall with hasked | hlast
        · exact absurd hasked (converting.encode_not_mem _ _)
        · cases List.mem_singleton.mp hlast
          rfl
      simp only [negotiated, Option.map_some, htarget]
      subst hpicture
      cases converted? with
      | none =>
          -- Why did the frame pass as it is?
          rcases (converting.none_iff hfits).mp rfl with
            hunwanted | ⟨geometry, hwanted, hrefused⟩ | ⟨current, blank, answer, hran, hfailed⟩
          · refine .inl (known.trans ?_)
            rw [RawFrame.eq_of_wants_none hunwanted known]
          · refine .inr ⟨rfl, .inl ⟨geometry, target, rfl, hwanted, ?_⟩⟩
            rw [← hrefused, ← List.append_assoc, openings_append]
            exact congrArg List.getLast? (List.append_nil _)
          · exact .inr ⟨rfl, .inr ⟨current, blank, answer, List.mem_append_left _ hran, hfailed⟩⟩
      | some converted =>
          -- The promise is about the conversion that was run, on a context opened for the target.
          refine .inl ?_
          rcases converting.some_eq rfl with ⟨current, blank, answer, hran, hok, -, hout, -⟩
          rcases List.append_of_mem hran with ⟨before, after, hsplit⟩
          rcases converting.openedFor hfits hsplit with ⟨-, geometry, -, hopened⟩
          have hearlier : before <+: asked ++ [.encode s.context converted.picture] := by
            rw [hsplit, List.append_assoc]
            exact List.prefix_append _ _
          have hstill := hopened.mono ((List.prefix_append_right_inj calls).mpr hearlier).subset
          have hyields := hkeeps current frame.picture blank answer geometry target
            (List.mem_append_right _ (List.mem_append_left _ hran)) hstill hok
          rw [Option.getD_some, hout]
          exact hyields

/-- Nothing is settled as long as nothing is proposed. -/
theorem negotiated_eq_none_iff (h : s.Settled settings frames calls) :
    s.negotiated = none ↔ ∀ frame ∈ frames, frame.proposal = none := by
  rw [h.negotiated_eq, ← List.findSome?_eq_none_iff]
  cases frames.findSome? RawFrame.proposal with
  | none => simp
  | some first => simp [settle?_formats h.formats_ne]

/-- What is settled stays so. -/
theorem negotiated_kept {e : Engine b σ} {r : Except Fault Unit × EncodeStage b}
    (h : s.Settled settings frames calls) (hvideo : settings.trackType = .video)
    (htaken : Taken e frame s more r) (hsettled : s.negotiated ≠ none) :
    r.2.negotiated = s.negotiated := by
  rw [(h.taken hvideo htaken).negotiated_eq, h.negotiated_eq, htaken.formats_eq]
  rw [Ne, h.negotiated_eq] at hsettled
  -- A frame at the end does not change which proposal was the first.
  rcases hfirst : frames.findSome? RawFrame.proposal with _ | first
  · rw [hfirst] at hsettled
    exact absurd rfl hsettled
  · rw [List.findSome?_append, hfirst]
    rfl

/-- Draining leaves everything settled as it is. -/
theorem drained (h : s.Settled settings frames calls)
    (hmore : ∀ call ∈ more, ∃ context, call = .drainEncoder context) (context : b.Encoder) :
    ({ s with context } : EncodeStage b).Settled settings frames (calls ++ more) := by
  have hopenings : openings more = [] := by
    refine List.filterMap_eq_nil_iff.mpr fun call hcall => ?_
    rcases hmore call hcall with ⟨drained, rfl⟩
    rfl
  refine ⟨h.settings_eq, h.formats_ne, ?_, fun converter hconverter => ?_⟩
  · rw [openings_append, hopenings, List.append_nil]
    exact h.unsettled
  · rcases h.settled converter hconverter with ⟨target, hsettled, hfits⟩
    exact ⟨target, hsettled, hfits.append hopenings⟩

end Settled

/-- An encode stage may have been through these frames, with these calls on the engine since it
    was opened. It may have been drained in between, and what it emitted may have gone anywhere. -/
inductive Reached (e : Engine b σ) (settings : Settings) (poolSize : Nat) :
    List (RawFrame b.Store) → List (EngineCall b) → EncodeStage b → Prop where
  | built {s : EncodeStage b} {w : σ} (opened : (build e settings poolSize w).value = .ok s) :
      Reached e settings poolSize [] [] s
  | input {frames : List (RawFrame b.Store)} {calls : List (EngineCall b)} {s : EncodeStage b}
      (before : Reached e settings poolSize frames calls s) (emit : Emitter σ)
      (frame : RawFrame b.Store) (w : σ) :
      Reached e settings poolSize (frames ++ [frame])
        (s.input e.observed (fun unit => (emit unit).onSecond) frame (calls, w)).world.1
        (s.input e.observed (fun unit => (emit unit).onSecond) frame (calls, w)).value.2
  | flush {frames : List (RawFrame b.Store)} {calls : List (EngineCall b)} {s : EncodeStage b}
      (before : Reached e settings poolSize frames calls s) (emit : Emitter σ) (w : σ) :
      Reached e settings poolSize frames
        (s.flush e.observed (fun unit => (emit unit).onSecond) (calls, w)).world.1
        (s.flush e.observed (fun unit => (emit unit).onSecond) (calls, w)).value.2

variable {e : Engine b σ} {settings : Settings} {poolSize : Nat}
  {frames : List (RawFrame b.Store)} {calls : List (EngineCall b)} {s : EncodeStage b}

/-- What a whole sequence of frames and drains preserves. -/
theorem Reached.settled (hvideo : settings.trackType = .video)
    (h : Reached e settings poolSize frames calls s) : s.Settled settings frames calls := by
  -- The induction is on the past: opening, then frames and drains in any order.
  induction h with
  | @built s w opened =>
      have hbuild := build_value e settings poolSize w
      rw [opened] at hbuild
      rcases hbuild with ⟨hsettings, hnone, hformats, -⟩
      refine ⟨hsettings, (hformats hvideo).1, fun _ => ⟨rfl, rfl⟩, fun converter hsome => ?_⟩
      rw [hnone] at hsome
      cases hsome
  | @input frames calls s before emit frame w ih =>
      have hkind := ih.trackType_eq.trans hvideo
      rcases input_asks e emit frame s hkind calls w with ⟨more, heq, htaken⟩
      rw [heq]
      exact ih.taken hvideo htaken
  | @flush frames calls s before emit w ih =>
      rcases flush_asks e emit s calls w with ⟨more, heq, hmore, context, hcontext⟩
      rw [heq]
      simp only [hcontext]
      exact ih.drained hmore context

/-- The format that a video encoder is fed is settled once. After any sequence of frames and
    drains, whatever the engine has answered and whatever became of the output:

    1. What is settled follows from the first format that was proposed, if there was one, and the
       encoder takes it.
    2. The next frame changes neither the formats to choose from nor what is settled already.
    3. Frames that are no pictures, and pictures in no known format, leave no trace. The former
       are reported.
    4. If conversions yield the format that they were opened for, then a picture is encoded in the
       settled format, unless it is the one that came in and its conversion could not be opened,
       or failed when it was run.
    5. Draining changes nothing that was settled, and encodes nothing. -/
theorem negotiates_once (hvideo : settings.codec.isVideo = true)
    (h : Reached e settings poolSize frames calls s) :
    s.negotiated = (frames.findSome? RawFrame.proposal).bind (settle? s.formats)
      ∧ (s.negotiated = none ↔ ∀ frame ∈ frames, frame.proposal = none)
      ∧ (∀ format, s.negotiated = some format → format ∈ s.formats)
      ∧ (∀ (emit : Emitter σ) (frame : RawFrame b.Store),
        Observes (s.input e.observed (fun unit => (emit unit).onSecond) frame)
          (s.input e emit frame) fun more r =>
            r.2.formats = s.formats
              ∧ (s.negotiated ≠ none → r.2.negotiated = s.negotiated)
              ∧ (frame.trackType ≠ .video →
                more = [] ∧ r = (.error (.trackTypeMismatch .video frame.trackType), s))
              ∧ (frame.trackType = .video → frame.picture.pixel = none →
                more = [] ∧ r = (.ok (), s))
              ∧ (KeepsPromises (calls ++ more) → ∀ context picture,
                .encode context picture ∈ more →
                  picture.pixel = r.2.negotiated
                    ∨ picture = frame.picture
                      ∧ ((∃ geometry target, r.2.negotiated = some target
                          ∧ frame.wants target = some geometry
                          ∧ (openings (calls ++ more)).getLast? = some ((geometry, target), false))
                        ∨ ∃ context blank answer, .convert context frame.picture blank answer ∈ more
                          ∧ answer.outcome.isOk = false)))
      ∧ (∀ emit : Emitter σ,
        Observes (s.flush e.observed fun unit => (emit unit).onSecond) (s.flush e emit)
          fun more r => r.2.formats = s.formats ∧ r.2.negotiated = s.negotiated
            ∧ ∀ call ∈ more, ∃ context, call = .drainEncoder context) := by
  have hkind : settings.trackType = .video := of_decide_eq_true hvideo
  have hs := h.settled hkind
  have htrack := hs.trackType_eq.trans hkind
  refine ⟨hs.negotiated_eq, hs.negotiated_eq_none_iff, fun format hformat => ?_,
    fun emit frame => ?_, fun emit => ?_⟩
  · rw [hs.negotiated_eq] at hformat
    rcases Option.bind_eq_some_iff.mp hformat with ⟨proposed, -, hsettled⟩
    exact settle?_mem hsettled
  · -- Everything about the next frame is read off what becomes of it.
    refine (input_asks e emit frame s htrack).mono fun more r htaken => ?_
    refine ⟨htaken.formats_eq, hs.negotiated_kept hkind htaken, fun hother => ?_,
      fun hsame hunknown => ?_, fun hkeeps context picture hcall =>
        hs.pixel_eq hkind htaken hkeeps hcall⟩
    · cases htaken with
      | mismatched other => exact ⟨rfl, by rw [htrack]⟩
      | formatless same unknown => exact absurd (same.trans htrack) hother
      | encoded same known converting outcome context => exact absurd (same.trans htrack) hother
    · cases htaken with
      | mismatched other => exact absurd (hsame.trans htrack.symm) other
      | formatless same unknown => exact ⟨rfl, rfl⟩
      | encoded same known converting outcome context =>
          rw [hunknown] at known
          cases known
  · refine (flush_asks e emit s).mono ?_
    rintro more ⟨outcome, _⟩ ⟨hmore, context, rfl⟩
    exact ⟨rfl, rfl, hmore⟩

/-- An encoder takes two formats, and the first picture is in neither. So it is converted to the
    first of them, and a picture in the second one that comes later does not change that. -/
theorem negotiates_once_first_choice :
    let e := Loopback.engine { encoderFormats := [.nv12, .nv21] }
    let frame (format : PixelFormat) : RawFrame Bytes :=
      ⟨{ Picture.blank [1] with pixel := some format, width := 640, height := 480 }, some .h265⟩
    let emit : Emitter Loopback.Tally := fun _ => pure (.ok ())
    ∃ s, (build e (.ofCodec .h264) 2 {}).value = .ok s ∧
      let first := s.input e.observed (fun unit => (emit unit).onSecond) (frame .rgb24) ([], {})
      let second := first.value.2.input e.observed (fun unit => (emit unit).onSecond) (frame .nv21)
        first.world
      second.value.2.negotiated = some .nv12
        ∧ ∃ context picture, .encode context picture ∈ first.world.1
          ∧ picture.pixel = some .nv12 := by
  intro e frame emit
  refine ⟨_, rfl, ?_⟩
  intro first second
  have hbuilt : Reached e (.ofCodec .h264) 2 [] [] _ := .built (w := {}) rfl
  have hnegotiated : first.value.2.negotiated = some .nv12 := rfl
  refine ⟨?_, ?_⟩
  · have hfirst := hbuilt.input emit (frame .rgb24) {}
    rcases negotiates_once rfl hfirst with ⟨-, -, -, hinput, -⟩
    rcases hinput emit (frame .nv21) first.world.1 first.world.2 with ⟨more, heq, -, hkept, -⟩
    have hsome : first.value.2.negotiated ≠ none := by
      rw [hnegotiated]
      exact Option.some_ne_none _
    change second = _ at heq
    rw [heq]
    exact (hkept hsome).trans hnegotiated
  · rcases negotiates_once rfl hbuilt with ⟨-, -, -, hinput, -⟩
    rcases hinput emit (frame .rgb24) [] {} with ⟨more, heq, -, -, -, -, hformat⟩
    change first = _ at heq
    have hmore : more = first.world.1 := by rw [heq]; rfl
    have hrecord : ∃ context source blank answer,
        more = [.openConverter ⟨.rgb24, 640, 480⟩ .nv12 (.ok .nv12), .fresh,
            .convert .nv12 source blank answer, .encode context answer.picture]
          ∧ answer.picture.pixel = some .nv12 :=
      ⟨_, _, _, _, hmore.trans rfl, rfl⟩
    rcases hrecord with ⟨context, source, blank, answer, rfl, hpixel⟩
    have hcall : .encode context answer.picture ∈ first.world.1 := by simp [← hmore]
    -- The one conversion that was run was opened for the settled format, and yields it.
    have hkeeps : KeepsPromises first.world.1 := by
      rw [← hmore]
      intro converter picture out last geometry target hran hopened hok
      have hopening : ((geometry, target), true) ∈ [((⟨.rgb24, 640, 480⟩, .nv12), true)] :=
        hopened.granted
      have hlast : EngineCall.convert (b := Loopback.backend) converter picture out last
          = .convert .nv12 source blank answer := by simpa using hran
      cases List.mem_singleton.mp hopening
      cases hlast
      exact hpixel
    rw [hmore, List.nil_append] at hformat
    refine ⟨context, answer.picture, hcall, ?_⟩
    rcases hformat hkeeps context answer.picture hcall with hsettled | ⟨hsame, -⟩
    · exact hsettled.trans hnegotiated
    · rw [hsame] at hpixel
      cases hpixel

end EncodeStage

end Recode
