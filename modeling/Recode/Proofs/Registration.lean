import Recode.Proofs.Separation

/-!
# Tracks that could not be added

Adding a track can fail in two ways. Either no chain opens for it, or the sink refuses
the track. The lane of its kind has been emptied by then, and if it is still empty
afterwards nothing is transcoded until a chain opens for another track of that kind.

There is one case in which the lane is not empty. When a chain has opened, it is put to
work before the sink is asked, and a sink that refuses does not undo that.

## Main definitions

* `Transcoder.Opens`: An operation adds a track that a chain opens for.
* `Transcoder.NoneOpens`: No operation of a run does.

## Theorems

* `Transcoder.perform_lane_none`: An empty lane stays empty unless a chain opens.
* `Transcoder.run_lane_none`: So it does in a run, which encodes nothing for that lane.
* `Transcoder.run_missing`: Frames that need a chain are refused meanwhile.
* `Transcoder.addTrack_error`: What a track leaves behind that could not be added.
-/

namespace Recode

open Act

namespace Transcoder

variable {b : Backend} {σ : Type} {t : Transcoder b} {kind : TrackType} {told : List SinkCall}
  {e : Engine b σ} {sink : Sink σ} {w : σ}

/-- The operation adds a track of this kind that has to be transcoded, and a chain opens
    for it. -/
def Opens (t : Transcoder b) (e : Engine b σ) (kind : TrackType) (op : Operation) (w : σ) : Prop :=
  ∃ track c, op = .addTrack track ∧ track.trackType = kind ∧ track.codec ≠ t.target kind
    ∧ (Chain.build e track (.ofTrack (t.target kind) track) t.config.poolSize.toNat w).value = .ok c

/-- No chain opens for a track of this kind while one operation is performed after the
    other. -/
def NoneOpens (e : Engine b σ) (sink : Sink σ) (kind : TrackType) :
    List Operation → Transcoder b → σ → Prop
  | [], _, _ => True
  | op :: ops, t, w => ¬t.Opens e kind op w
      ∧ NoneOpens e sink kind ops (t.perform e sink op w).value.2 (t.perform e sink op w).world

/-- A chain that opens is at work whatever the sink says to the track, and nothing but what
    the sink says decides how adding the track ends. -/
theorem addTrack_opens (e : Engine b σ) (sink : Sink σ) {track : Track}
    (h : t.Opens e track.trackType (.addTrack track) w) (record : List SinkCall) :
    let announced := (Settings.ofTrack (t.target track.trackType) track).toTrack
    let alone := t.addTrack e sink track w
    ∃ c, alone.value.2 = t.setLane track.trackType (some c)
      ∧ (t.addTrack e.onSecond sink.observed track (record, w)).world.1
        = record ++ [.addTrack announced alone.value.1] := by
  rcases h with ⟨track, c, heq, -, hdiffers, hopen⟩
  cases heq
  -- Emptying the lane first makes no difference to what opens.
  have hbuild : (Chain.build e track (.ofTrack (t.target track.trackType) track)
      (t.setLane track.trackType none).config.poolSize.toNat w).value = .ok c := hopen
  refine ⟨c, ?_, ?_⟩
  · unfold addTrack
    simp only [if_neg hdiffers, bind_value, hbuild, pure_value, setLane_setLane]
  · unfold addTrack
    simp only [if_neg hdiffers, Chain.build_onSecond, bind_apply, onSecond, hbuild]
    rfl

/-- Without a chain that opens, the lane of the track is left empty. -/
theorem addTrack_of_not_opens (e : Engine b σ) (sink : Sink σ) {track : Track}
    (h : ¬t.Opens e track.trackType (.addTrack track) w) :
    (t.addTrack e sink track w).value.2 = t.setLane track.trackType none := by
  unfold addTrack
  -- A track in the target codec needs no chain, and any other has asked for one.
  by_cases hsame : track.codec = t.target track.trackType
  · simp only [if_pos hsame, bind_value, pure_value]
  · simp only [if_neg hsame, bind_value]
    rcases hbuild : (Chain.build e track (.ofTrack (t.target track.trackType) track)
      (t.setLane track.trackType none).config.poolSize.toNat w).value with fault | c
    · rfl
    · exact absurd ⟨track, c, rfl, rfl, hsame, hbuild⟩ h

/-- Adding a track changes the lane of its kind alone. -/
theorem addTrack_lane (e : Engine b σ) (sink : Sink σ) (track : Track) (t : Transcoder b) (w : σ) :
    ∃ chain?, (t.addTrack e sink track w).value.2 = t.setLane track.trackType chain? := by
  by_cases h : t.Opens e track.trackType (.addTrack track) w
  · rcases addTrack_opens e sink h [] with ⟨c, hvalue, -⟩
    exact ⟨some c, hvalue⟩
  · exact ⟨none, addTrack_of_not_opens e sink h⟩

/-- A frame that needs a chain, where no chain is at work for its codec. -/
theorem inputFrame_refused (e : Engine b σ) (sink : Sink σ) {unit : AccessUnit}
    (hother : ∀ c, t.lanes.get unit.trackType = some c → c.decode.codec ≠ unit.codec)
    (hdiffers : unit.codec ≠ t.target unit.trackType) (w : σ) :
    t.inputFrame e sink unit w = ⟨(.error (.trackNotReady unit.codec), t),
      [.trackMissing unit.codec (t.target unit.trackType)], w⟩ := by
  unfold inputFrame
  simp only [if_neg hdiffers]
  -- No chain and a chain for another codec come to the same here.
  rcases hc : t.lanes.get unit.trackType with _ | c
  · rfl
  · simp only [if_neg (hother c hc)]
    rfl

/-- A frame that needs a chain and finds none. -/
theorem inputFrame_missing (e : Engine b σ) (sink : Sink σ) {unit : AccessUnit}
    (hlane : t.lanes.get unit.trackType = none) (hdiffers : unit.codec ≠ t.target unit.trackType)
    (w : σ) :
    t.inputFrame e sink unit w = ⟨(.error (.trackNotReady unit.codec), t),
      [.trackMissing unit.codec (t.target unit.trackType)], w⟩ :=
  inputFrame_refused e sink (fun _ hc => nomatch hlane.symm.trans hc) hdiffers w

/-- A frame changes at most the chain of its kind, and only if there is one. -/
theorem inputFrame_lane (e : Engine b σ) (sink : Sink σ) (unit : AccessUnit) (t : Transcoder b)
    (w : σ) :
    (t.inputFrame e sink unit w).value.2 = t
      ∨ ∃ c c', t.lanes.get unit.trackType = some c
        ∧ (t.inputFrame e sink unit w).value.2 = t.setLane unit.trackType (some c') := by
  unfold inputFrame
  -- Only a chain that decodes the frame's codec is changed by it.
  by_cases hsame : unit.codec = t.target unit.trackType
  · simp only [if_pos hsame]
    exact .inl rfl
  · simp only [if_neg hsame]
    rcases hc : t.lanes.get unit.trackType with _ | c
    · exact .inl rfl
    · by_cases hcodec : c.decode.codec = unit.codec
      · simp only [if_pos hcodec]
        exact .inr ⟨c, _, rfl, rfl⟩
      · simp only [if_neg hcodec]
        exact .inl rfl

/-- A drained lane is empty, whatever the drain has come to. -/
theorem flushLane_value (e : Engine b σ) (sink : Sink σ) (kind : TrackType) (t : Transcoder b)
    (w : σ) : (t.flushLane e sink kind w).value.2 = t.setLane kind none := by
  rcases hc : t.lanes.get kind with _ | c
  · rw [flushLane_none e sink hc, ← hc, setLane_get]
    rfl
  · unfold flushLane
    simp only [hc, bind_value]
    rcases (c.flush e sink w).value with fault | _ <;> rfl

/-- A flush opens no chain. -/
theorem flush_lane_none (e : Engine b σ) (sink : Sink σ) (hlane : t.lanes.get kind = none) (w : σ) :
    (t.flush e sink w).value.2.lanes.get kind = none := by
  have hempty (k : TrackType) {t : Transcoder b} (h : t.lanes.get kind = none) :
      (t.setLane k none).lanes.get kind = none := by
    by_cases hk : kind = k
    · rw [hk, get_setLane_self]
    · rw [get_setLane_of_ne _ hk, h]
  -- A fault of the first drain leaves the second lane as it was, and an empty lane empty.
  have hsound := flushLane_value e sink .audio t w
  unfold flush
  simp only [bind_value]
  rcases hdrained : (t.flushLane e sink .audio w).value with ⟨fault | _, t'⟩
  · rw [hdrained] at hsound
    cases hsound
    exact hempty .audio hlane
  · rw [hdrained] at hsound
    cases hsound
    simp only [flushLane_value]
    exact hempty .video (hempty .audio hlane)

/-- An empty lane stays empty unless a chain opens for it. -/
theorem perform_lane_none (e : Engine b σ) (sink : Sink σ) {op : Operation}
    (hlane : t.lanes.get kind = none) (hop : ¬t.Opens e kind op w) :
    (t.perform e sink op w).value.2.lanes.get kind = none := by
  -- Of all operations, only adding a track fills a lane.
  cases op with
  | addTrack track =>
      simp only [perform]
      by_cases hkind : kind = track.trackType
      · subst hkind
        rw [addTrack_of_not_opens e sink hop, get_setLane_self]
      · rcases addTrack_lane e sink track t w with ⟨chain?, hvalue⟩
        rw [hvalue, get_setLane_of_ne _ hkind, hlane]
  | inputFrame unit =>
      simp only [perform]
      rcases inputFrame_lane e sink unit t w with hvalue | ⟨c, c', hc, hvalue⟩
      · rw [hvalue, hlane]
      · -- A chain took the frame, so it was one of the other kind.
        have hkind : kind ≠ unit.trackType := by
          rintro rfl
          cases hlane.symm.trans hc
        rw [hvalue, get_setLane_of_ne _ hkind, hlane]
  | flush => exact flush_lane_none e sink hlane w
  | tracksCompleted => exact hlane
  | resetTracks => cases kind <;> rfl

/-- An empty lane stays empty as long as no chain opens for it. All that the sink is told
    about its kind meanwhile are frames put in, already in the target codec. -/
theorem run_lane_none (e : Engine b σ) (sink : Sink σ) (ops : List Operation)
    (hlane : t.lanes.get kind = none) (hops : NoneOpens e sink kind ops t w) (h : t.Sound told)
    (record : List SinkCall) :
    ∃ calls, (t.run e.onSecond sink.observed ops (record, w)).world.1 = record ++ calls
      ∧ (t.run e sink ops w).value.2.lanes.get kind = none
      ∧ ∀ unit answer, .inputFrame unit answer ∈ calls → unit.trackType = kind →
          .inputFrame unit ∈ ops ∧ unit.codec = t.config.target kind := by
  -- What the sink was told before matters only for the soundness that each step needs.
  induction ops generalizing t w told record with
  | nil => exact ⟨[], (List.append_nil _).symm, hlane, fun _ _ hmem => (nomatch hmem)⟩
  | cons op ops ih =>
      rcases hops with ⟨hop, hops⟩
      rcases perform_observed e sink op h record w with ⟨calls, heq, hstep⟩
      rcases ih (perform_lane_none e sink hlane hop) hops hstep.sound (record ++ calls) with
        ⟨more, hmore, hlater, hframes⟩
      refine ⟨calls ++ more, ?_, hlater, fun unit answer hmem hkind => ?_⟩
      · rw [← List.append_assoc, ← hmore]
        simp only [run, bind_world, heq]
        rfl
      · rcases List.mem_append.mp hmem with hmem | hmem
        · -- A frame of this operation is not from a chain, since there is none.
          rcases List.append_of_mem hmem with ⟨sofar, rest, hcalls⟩
          rcases hstep.sourced sofar unit answer rest hcalls with ⟨rfl, hcodec⟩ | ⟨c, hc, -⟩
          · rw [hkind] at hcodec
            exact ⟨List.mem_cons_self .., hcodec⟩
          · rw [hkind, hlane] at hc
            cases hc
        · rcases hframes unit answer hmem hkind with ⟨hmem, hcodec⟩
          rw [hstep.config] at hcodec
          exact ⟨List.mem_cons_of_mem _ hmem, hcodec⟩

/-- While a lane is empty and no chain opens for it, nothing of its kind is transcoded. -/
theorem run_missing (e : Engine b σ) (sink : Sink σ) (ops : List Operation)
    (hlane : t.lanes.get kind = none) (hops : NoneOpens e sink kind ops t w) (h : t.Sound told) :
    let later := t.run e sink ops w
    later.value.2.isTranscoding kind = false
      ∧ (∀ unit, unit.trackType = kind → unit.codec ≠ t.config.target kind →
          later.value.2.inputFrame e sink unit later.world
            = ⟨(.error (.trackNotReady unit.codec), later.value.2),
                [.trackMissing unit.codec (t.config.target kind)], later.world⟩)
      ∧ ∀ unit answer, unit.trackType = kind → .inputFrame unit answer ∈ t.tells e sink ops w →
          .inputFrame unit ∈ ops ∧ unit.codec = t.config.target kind := by
  intro later
  rcases run_lane_none e sink ops hlane hops h [] with ⟨calls, htold, hempty, hframes⟩
  rcases run_observed e sink ops h [] w with ⟨-, -, hconfig, -⟩
  have hlater : later.value.2.lanes.get kind = none := hempty
  have htarget : later.value.2.target kind = t.config.target kind := by rw [target, hconfig]
  refine ⟨?_, fun unit hkind hdiffers => ?_, fun unit answer hkind hmem => ?_⟩
  · -- The lane is empty, and that is all that is asked.
    rw [isTranscoding, hlater]
    rfl
  · subst hkind
    rw [← htarget] at hdiffers ⊢
    exact inputFrame_missing e sink hlater hdiffers later.world
  · rw [tells, htold] at hmem
    exact hframes unit answer hmem hkind

/-- What a track leaves behind that could not be added. Take any history of a transcoder and
    let adding a track fail after it, whatever the engine and the sink do. The other lane
    is as before. The lane of the track's kind is empty unless a chain opened for the track,
    and then it was the sink that refused it. While the lane is empty and no chain opens for
    another track of the kind, nothing of that kind is transcoded: a frame in another codec
    than the target finds no track, and the sink is told of no frame that was not put in as
    it is. -/
theorem addTrack_error (config : Config) (start : Transcoder b)
    (hstart : ofConfig config = .ok start) (e : Engine b σ) (sink : Sink σ) (ops : List Operation)
    (track : Track) (w : σ) (fault : Fault) :
    let kind := track.trackType
    let reached := start.run e sink ops w
    let failed := reached.value.2.addTrack e sink track reached.world
    let announced := (Settings.ofTrack (config.target kind) track).toTrack
    let opens := reached.value.2.Opens e kind (.addTrack track) reached.world
    failed.value.1 = .error fault →
      (∀ other, other ≠ kind →
        failed.value.2.lanes.get other = reached.value.2.lanes.get other)
      ∧ (failed.value.2.isTranscoding kind = true ↔ opens)
      ∧ (opens → reached.value.2.tells e sink [.addTrack track] reached.world
          = [.addTrack announced (.error fault)])
      ∧ (¬opens → ∀ more, NoneOpens e sink kind more failed.value.2 failed.world →
          let later := failed.value.2.run e sink more failed.world
          later.value.2.isTranscoding kind = false
            ∧ (∀ unit, unit.trackType = kind → unit.codec ≠ config.target kind →
                later.value.2.inputFrame e sink unit later.world
                  = ⟨(.error (.trackNotReady unit.codec), later.value.2),
                      [.trackMissing unit.codec (config.target kind)], later.world⟩)
            ∧ ∀ unit answer, unit.trackType = kind →
                .inputFrame unit answer ∈ failed.value.2.tells e sink more failed.world →
                .inputFrame unit ∈ more ∧ unit.codec = config.target kind) := by
  intro kind reached failed announced opens hfault
  rcases ofConfig_sound hstart with ⟨rfl, hsound⟩
  rcases run_observed e sink ops hsound [] w with ⟨calls, -, hconfig, hreached⟩
  rcases addTrack_observed e sink track hreached [] reached.world with ⟨calls', -, hstep⟩
  have hempty (h : ¬opens) : failed.value.2.lanes.get kind = none := by
    simp only [failed, addTrack_of_not_opens e sink h]
    exact get_setLane_self ..
  refine ⟨fun other hother => ?_, ⟨fun htranscoding => ?_, fun hopens => ?_⟩, fun hopens => ?_,
    fun hopens more hmore => ?_⟩
  · rcases addTrack_lane e sink track reached.value.2 reached.world with ⟨chain?, hvalue⟩
    simp only [failed, hvalue]
    exact get_setLane_of_ne _ hother _
  · -- If no chain had opened, the lane would be empty.
    refine Classical.not_not.mp fun hopens => ?_
    rw [isTranscoding, hempty hopens] at htranscoding
    cases htranscoding
  · rcases addTrack_opens e sink hopens [] with ⟨c, hvalue, -⟩
    simp only [failed, isTranscoding, hvalue]
    rw [get_setLane_self]
    rfl
  · rcases addTrack_opens e sink hopens [] with ⟨c, -, htold⟩
    rw [hfault, target, hconfig] at htold
    exact htold
  · -- The later run begins with an empty lane, and no operation in it opens a chain.
    have hconfig' : failed.value.2.config = start.config := hstep.config.trans hconfig
    have hmissing := run_missing e sink more (hempty hopens) hmore hstep.sound
    rw [hconfig'] at hmissing
    exact hmissing

/-- No decoder opens for the track, neither now nor when it is added again. Its frames find
    no track, and the flush in between makes no difference. -/
theorem addTrack_error_no_decoder :
    let start : Transcoder Loopback.backend :=
      { config := .default, usable := rfl, lanes := ⟨none, none⟩ }
    let e := Loopback.engine { failingDecoders := [.h265] }
    let track := Track.video .h265 640 480 ⟨0⟩
    let reached := start.run e .noting [.addTrack (.video .h264 640 480 ⟨0⟩)] {}
    let failed := reached.value.2.addTrack e .noting track reached.world
    let later := failed.value.2.run e .noting [.addTrack track, .flush] failed.world
    later.value.2.isTranscoding .video = false
      ∧ (later.value.2.inputFrame e .noting ⟨.h265, 0, 0, [1]⟩ later.world).value.1
        = .error (.trackNotReady .h265) := by
  intro start e track reached failed later
  have hfailed : failed.value.1
        = .error (.decoderInitFailed .h265 "h265" ⟨"h265 refused to open", []⟩)
      ∧ failed.value.2.isTranscoding .video = false := by
    revert start e track
    cbv
  rcases hfailed with ⟨hfault, hempty⟩
  rcases addTrack_error .default start rfl e .noting _ track {} _ hfault with
    ⟨-, hiff, -, hlater⟩
  have hopens : ¬reached.value.2.Opens e .video (.addTrack track) reached.world := fun hopens =>
    absurd (hempty.symm.trans (hiff.mpr hopens)) (by decide)
  -- Neither operation opens a chain: the first finds no decoder, and the second adds no track.
  have hnone : NoneOpens e .noting .video [.addTrack track, .flush] failed.value.2
      failed.world := by
    refine ⟨?_, ?_, trivial⟩
    · rintro ⟨track', c, heq, -, -, hbuild⟩
      cases heq
      cases hbuild
    · rintro ⟨track', c, heq, -⟩
      cases heq
  rcases hlater hopens _ hnone with ⟨htranscoding, hframe, -⟩
  exact ⟨htranscoding, congrArg (fun o => o.value.1) (hframe ⟨.h265, 0, 0, [1]⟩ rfl (by decide))⟩

/-- A sink that refuses tracks but takes frames. Adding the track fails, and yet it is
    transcoded from then on. -/
theorem addTrack_error_transcoding :
    let start : Transcoder Loopback.backend :=
      { config := .default, usable := rfl, lanes := ⟨none, none⟩ }
    let e := Loopback.engine {}
    let sink : Sink Loopback.Tally :=
      .taking (fun _ => pure (.error (.sink ⟨"full", []⟩))) fun _ => pure (.ok ())
    let failed := start.addTrack e sink (.video .h265 640 480 ⟨0⟩) {}
    failed.value.1 = .error (.sink ⟨"full", []⟩) ∧ failed.value.2.isTranscoding .video = true
      ∧ failed.value.2.tells e sink [.inputFrame ⟨.h265, 0, 0, [1]⟩] failed.world
        = [.inputFrame ⟨.h264, 0, 0, [0, 0, 0, 1, 0x65, 1]⟩ (.ok ())] := by
  cbv

end Transcoder

end Recode
