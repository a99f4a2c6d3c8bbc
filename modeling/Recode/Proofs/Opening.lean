import Recode.Transcoder.Basic

/-!
# What opening yields

Opening a stage is a search with many ends, and later proofs care about the two
outcomes only. A stage that opens holds a context which some implementation that was
looked up for the codec has opened, and is otherwise as new. A stage that does not
open gives a reason of its own kind.

## Theorems

* `select_opened`: A chosen context was opened by an implementation that was found.
* `DecodeStage.build_value`, `EncodeStage.build_value`, `Chain.build_value`: What
  opening a stage, or both stages of a chain, yields.
* `Chain.codecs_of_build`, `Chain.ne_mismatch_of_build`, `Chain.converter_of_build`:
  What of this the operations of a transcoder rest on.
* `Transcoder.build_of_addTrack`: Adding a track succeeds only if a chain opens.
* `Config.target_trackType`: The targets of a usable configuration are of the kinds
  they are the targets of.
-/

namespace Recode

variable {b : Backend} {σ ι γ : Type}

/-- A search that settles on a context has found the implementation that opened it, in one of the
    look-ups it was to go through. -/
theorem selectFrom_opened {codec : Codec} {find : Lookup → Act σ (Option ι)} {name : ι → String}
    {attempt : ι → Act σ (Except Cause γ)} {failures : Failures} {lookups : List Lookup}
    {context : γ} {implementation : String} {w : σ}
    (h : (selectFrom codec find name attempt failures lookups w).value
      = .opened context implementation) :
    ∃ lookup ∈ lookups, ∃ found w₁ w₂, (find lookup w₁).value = some found
      ∧ (attempt found w₂).value = .ok context := by
  induction lookups generalizing failures w with
  | nil =>
      -- With all lookups used up the search has failed, whatever went wrong.
      rcases failures with _ | ⟨⟨name, cause⟩, failures⟩ <;> cases h
  | cons lookup lookups ih =>
      -- Whenever this lookup leads nowhere, the context is from a later one.
      have later {failures w} (h : (selectFrom codec find name attempt failures lookups w).value
          = .opened context implementation) :
          ∃ l ∈ lookup :: lookups, ∃ found w₁ w₂, (find l w₁).value = some found
            ∧ (attempt found w₂).value = .ok context := by
        rcases ih h with ⟨l, hl, hfound⟩
        exact ⟨l, List.mem_cons_of_mem _ hl, hfound⟩
      rw [selectFrom, Act.bind_value] at h
      -- The look-up finds nothing, or what was tried already, or what does not open, or this is
      -- it.
      rcases hfind : (find lookup w).value with _ | found
      · rw [hfind] at h
        exact later h
      · rw [hfind] at h
        simp only at h
        split at h
        · exact later h
        · rw [Act.bind_value] at h
          rcases hopen : (attempt found (find lookup w).world).value with cause | opened
          · rw [hopen] at h
            exact later h
          · rw [hopen] at h
            cases h
            exact ⟨lookup, List.mem_cons_self .., found, w, _, hfind, hopen⟩

/-- The same of the whole search, over all look-ups for a codec. -/
theorem select_opened {codec : Codec} {preferred : List String}
    {find : Lookup → Act σ (Option ι)} {name : ι → String} {attempt : ι → Act σ (Except Cause γ)}
    {context : γ} {implementation : String} {w : σ}
    (h : (select codec preferred find name attempt w).value = .opened context implementation) :
    ∃ lookup ∈ lookups codec preferred, ∃ found w₁ w₂, (find lookup w₁).value = some found
      ∧ (attempt found w₂).value = .ok context :=
  selectFrom_opened h

/-- A decode stage that opens holds what an implementation found for the codec of the
    track opened. -/
theorem DecodeStage.build_value (e : Engine b σ) (track : Track) (poolSize : Nat) (w : σ) :
    match (build e track poolSize w).value with
    | .ok s => s.codec = track.codec
        ∧ ∃ lookup ∈ lookups track.codec track.codec.entry.decoders, ∃ found w₁ w₂,
            (e.findDecoder lookup w₁).value = some found
              ∧ (e.openDecoder found track w₂).value = .ok s.context
    | .error fault => fault = .decoderUnavailable track.codec
        ∨ ∃ implementation cause,
            fault = .decoderInitFailed track.codec implementation cause := by
  unfold build
  rw [Act.bind_value]
  -- Each end of the search is one case: an open context, nothing found, nothing that opens.
  rcases hselect : (select track.codec track.codec.entry.decoders e.findDecoder
    e.implementationName (e.openDecoder · track) w).value with
    ⟨context, implementation⟩ | _ | ⟨implementation, cause⟩
  · exact ⟨rfl, select_opened hselect⟩
  · exact .inl rfl
  · exact .inr ⟨implementation, cause, rfl⟩

/-- The formats of a video encoder are those it reports, and there are some. -/
theorem EncodeStage.formatsOf_ok {e : Engine b σ} {codec : Codec} {context : b.Encoder}
    {w : σ} {formats : List PixelFormat}
    (h : (formatsOf e codec context w).value = .ok formats) :
    codec.trackType = .video →
      formats ≠ [] ∧ ∃ w', formats = (e.pixelFormats context w').value := by
  intro hvideo
  -- An encoder without a format is refused at the opening.
  have htest : codec.isVideo = true := decide_eq_true hvideo
  unfold formatsOf at h
  simp only [htest, if_true, Act.bind_value] at h
  rcases hformats : (e.pixelFormats context w).value with _ | ⟨format, rest⟩
  · rw [hformats] at h
    cases h
  · rw [hformats] at h
    cases h
    exact ⟨List.cons_ne_nil format rest, w, hformats.symm⟩

/-- An encode stage that opens holds what an implementation found for the codec of the
    settings opened, and has negotiated nothing yet. -/
theorem EncodeStage.build_value (e : Engine b σ) (settings : Settings) (poolSize : Nat) (w : σ) :
    match (build e settings poolSize w).value with
    | .ok s => s.settings = settings ∧ s.converter = none
        ∧ (settings.trackType = .video →
            s.formats ≠ [] ∧ ∃ w', s.formats = (e.pixelFormats s.context w').value)
        ∧ ∃ lookup ∈ lookups settings.codec settings.codec.entry.encoders, ∃ found w₁ w₂,
            (e.findEncoder lookup w₁).value = some found
              ∧ (e.openEncoder found settings w₂).value = .ok s.context
    | .error fault => fault = .encoderUnavailable settings.codec
        ∨ ∃ implementation cause,
            fault = .encoderInitFailed settings.codec implementation cause := by
  unfold build
  rw [Act.bind_value]
  rcases hselect : (select settings.codec settings.codec.entry.encoders e.findEncoder
    e.implementationName (e.openEncoder · settings) w).value with
    ⟨context, implementation⟩ | _ | ⟨implementation, cause⟩
  · -- A context that was opened may still have no format, and is then refused like one that
    -- failed.
    simp only [Act.bind_value]
    rcases hformats : (formatsOf e settings.codec context _).value with cause | formats
    · exact .inr ⟨implementation, cause, rfl⟩
    · exact ⟨rfl, rfl, formatsOf_ok hformats, select_opened hselect⟩
  · exact .inl rfl
  · exact .inr ⟨implementation, cause, rfl⟩

/-- A chain that opens consists of two stages that opened. -/
theorem Chain.build_value (e : Engine b σ) (track : Track) (settings : Settings)
    (poolSize : Nat) (w : σ) :
    match (build e track settings poolSize w).value with
    | .ok c => ∃ w', (DecodeStage.build e track poolSize w).value = .ok c.decode
        ∧ (EncodeStage.build e settings poolSize w').value = .ok c.encode
    | .error fault => (DecodeStage.build e track poolSize w).value = .error fault
        ∨ ∃ w', (EncodeStage.build e settings poolSize w').value = .error fault := by
  unfold build
  rw [Act.bind_value]
  rcases (DecodeStage.build e track poolSize w).value with fault | decode
  · -- Without a decode stage the other is not tried.
    exact .inl rfl
  · simp only [Act.bind_value]
    rcases hencode : (EncodeStage.build e settings poolSize _).value with fault | encode
    · exact .inr ⟨_, hencode⟩
    · exact ⟨_, rfl, hencode⟩

/-- A chain decodes from the codec of the track and encodes with the settings. -/
theorem Chain.codecs_of_build {e : Engine b σ} {track : Track} {settings : Settings}
    {poolSize : Nat} {w : σ} {c : Chain b}
    (h : (build e track settings poolSize w).value = .ok c) :
    c.decode.codec = track.codec ∧ c.encode.settings = settings := by
  have hbuild := Chain.build_value e track settings poolSize w
  rw [h] at hbuild
  rcases hbuild with ⟨w', hdecode, hencode⟩
  have hcodec := DecodeStage.build_value e track poolSize w
  have hsettings := EncodeStage.build_value e settings poolSize w'
  rw [hdecode] at hcodec
  rw [hencode] at hsettings
  exact ⟨hcodec.1, hsettings.1⟩

/-- A chain that does not open says so, and nothing about frames. -/
theorem Chain.ne_mismatch_of_build {e : Engine b σ} {track : Track} {settings : Settings}
    {poolSize : Nat} {w : σ} {fault : Fault}
    (h : (build e track settings poolSize w).value = .error fault) (expected actual : TrackType) :
    fault ≠ .trackTypeMismatch expected actual := by
  have hbuild := Chain.build_value e track settings poolSize w
  rw [h] at hbuild
  -- Either stage fails with a fault of opening, and neither of those is about a frame.
  rcases hbuild with hdecode | ⟨w', hencode⟩
  · have hfault := DecodeStage.build_value e track poolSize w
    rw [hdecode] at hfault
    rcases hfault with rfl | ⟨implementation, cause, rfl⟩ <;> exact Fault.noConfusion
  · have hfault := EncodeStage.build_value e settings poolSize w'
    rw [hencode] at hfault
    rcases hfault with rfl | ⟨implementation, cause, rfl⟩ <;> exact Fault.noConfusion

/-- A chain that was just opened has negotiated nothing. -/
theorem Chain.converter_of_build {e : Engine b σ} {track : Track} {settings : Settings}
    {poolSize : Nat} {w : σ} {c : Chain b}
    (h : (build e track settings poolSize w).value = .ok c) : c.encode.converter = none := by
  have hbuild := Chain.build_value e track settings poolSize w
  rw [h] at hbuild
  rcases hbuild with ⟨w', -, hencode⟩
  have hvalue := EncodeStage.build_value e settings poolSize w'
  rw [hencode] at hvalue
  exact hvalue.2.1

/-- In a usable configuration the targets are of the kinds they are the targets of. -/
theorem Config.target_trackType {config : Config} (usable : config.validate = .ok ())
    (kind : TrackType) : (config.target kind).trackType = kind := by
  -- Validation has tested both targets, so each of the failing cases contradicts it.
  by_cases haudio : config.audioTarget.isAudio
  · by_cases hvideo : config.videoTarget.isVideo
    · cases kind with
      | audio => exact of_decide_eq_true haudio
      | video => exact of_decide_eq_true hvideo
    · simp [validate, haudio, hvideo] at usable
  · simp [validate, haudio] at usable

/-- A transcoder begins with the configuration it is given, and without chains. -/
theorem Transcoder.ofConfig_ok {config : Config} {t : Transcoder b} (h : ofConfig config = .ok t) :
    t.config = config ∧ t.lanes = ⟨none, none⟩ := by
  unfold ofConfig at h
  split at h
  · cases h
    exact ⟨rfl, rfl⟩
  · cases h

/-- A track that is not in the target codec can only be added if a chain opens for it. -/
theorem Transcoder.build_of_addTrack {e : Engine b σ} {sink : Sink σ} {track : Track}
    {t : Transcoder b} {w : σ} (hdiffers : track.codec ≠ t.target track.trackType)
    (h : (t.addTrack e sink track w).value.1 = .ok ()) :
    ∃ c, (Chain.build e track (.ofTrack (t.target track.trackType) track)
      t.config.poolSize.toNat w).value = .ok c := by
  unfold addTrack at h
  simp only [if_neg hdiffers, Act.bind_value] at h
  -- If no chain opens, the fault of the opening is the answer, against the hypothesis.
  rcases hbuild : (Chain.build e track (.ofTrack (t.target track.trackType) track)
    (t.setLane track.trackType none).config.poolSize.toNat w).value with fault | c
  · rw [hbuild] at h
    cases h
  · exact ⟨c, hbuild⟩

end Recode
