import Recode.Proofs.EndOfStream
import Recode.Proofs.Registration

/-!
# A table of two codecs

What a transcoder makes of a frame is decided by very little: by the codec that is being
transcoded for each kind of track, if there is one. In front of a sink that refuses
nothing this can be kept track of from outside. A track that was added puts its codec in
the table, unless it is in the target codec already or no decoder and encoder could be
selected for it; a flush or a reset empties the table, and nothing else touches it.

The transcoder has a table too, the codecs of its chains, and every operation does to it
what it does to the table kept outside. So the table says what will become of a frame. A
frame in the target codec goes to the sink, a frame in the codec of the table goes to the
decoder, and any other is refused before anybody is asked anything.

A sink that refuses a frame can cut a flush short, and then a chain is left at work that
the table does not have. This is why the sink is one that refuses nothing.

## Main definitions

* `Fault.noneSelected`: No decoder or no encoder could be selected.
* `Table`, `Table.after`, `Table.through`: The table kept outside.
* `Transcoder.table`: The codecs of the chains at work.

## Theorems

* `Transcoder.addTrack_accepted`: The ways in which adding a track can end.
* `Transcoder.perform_table`: Every operation does to the table of a transcoder what it does
  to the one kept outside.
* `Transcoder.run_table`: So does every history.
* `Transcoder.inputFrame_unlisted`, `Transcoder.inputFrame_decides`: What becomes of a frame.
* `Transcoder.run_decides`: The table kept outside decides it.
-/

namespace Recode

open Act

variable {b : Backend} {σ : Type}

/-- The fault says that no decoder for the source codec, or no encoder for the target, could
    be selected. -/
def Fault.noneSelected (source target : Codec) : Fault → Bool
  | .decoderUnavailable codec | .decoderInitFailed codec _ _ => codec = source
  | .encoderUnavailable codec | .encoderInitFailed codec _ _ => codec = target
  | _ => false

/-- For each kind of track the codec that is being transcoded. -/
abbrev Table := Lanes (Option Codec)

namespace Table

/-- Nothing is being transcoded. -/
def empty : Table := ⟨none, none⟩

/-- The table after an operation and how it ended. -/
def after (config : Config) (op : Operation) (outcome : Except Fault Unit) (active : Table) :
    Table :=
  match op, outcome with
  | .addTrack track, .ok () =>
    let target := config.target track.trackType
    active.set track.trackType (if track.codec = target then none else some track.codec)
  | .addTrack track, .error fault =>
    let target := config.target track.trackType
    active.set track.trackType
      (if track.codec = target ∨ fault.noneSelected track.codec target then none
        else some track.codec)
  | .resetTracks, _ | .flush, _ => empty
  | .inputFrame _, _ | .tracksCompleted, _ => active

/-- The table after a history and how its operations ended. -/
def through (config : Config) :
    List Operation → List (Except Fault Unit) → Table → Table
  | op :: ops, outcome :: outcomes, active =>
    through config ops outcomes (active.after config op outcome)
  | _, _, active => active

end Table

/-- A chain opens unless no decoder or no encoder could be selected. -/
theorem Chain.noneSelected_of_build {e : Engine b σ} {track : Track} {settings : Settings}
    {poolSize : Nat} {w : σ} {fault : Fault}
    (h : (build e track settings poolSize w).value = .error fault) :
    fault.noneSelected track.codec settings.codec = true := by
  have hbuild := Chain.build_value e track settings poolSize w
  rw [h] at hbuild
  -- Either the decoder or the encoder was not to be had.
  rcases hbuild with hdecode | ⟨w', hencode⟩
  · have hfault := DecodeStage.build_value e track poolSize w
    rw [hdecode] at hfault
    rcases hfault with rfl | ⟨implementation, cause, rfl⟩ <;> exact decide_eq_true rfl
  · have hfault := EncodeStage.build_value e settings poolSize w'
    rw [hencode] at hfault
    rcases hfault with rfl | ⟨implementation, cause, rfl⟩ <;> exact decide_eq_true rfl

/-- The chain stays one for the same codec. -/
theorem Chain.input_codec (e : Engine b σ) (sink : Sink σ) (unit : AccessUnit) (c : Chain b)
    (w : σ) : (c.input e sink unit w).value.2.decode.codec = c.decode.codec := by
  rcases c.decode.input_value e unit w with ⟨blank, w', -, pool, hvalue⟩
  have hcodec : (c.decode.input e unit w).value.2.codec = c.decode.codec := by rw [hvalue]
  unfold input DecodeStage.feed
  simp only [bind_value, bind_world]
  rcases hinput : (c.decode.input e unit w).value with ⟨frame?, decode⟩
  rw [hinput] at hcodec
  cases frame? with
  | none => exact hcodec
  | some frame =>
      simp only [bind_value, pure_value, DecodeStage.settle_codec]
      exact hcodec

/-- A sink that refuses nothing takes the frame. -/
theorem Sink.Accepts.inputFrame_follows {sink : Sink σ} (hsink : sink.Accepts)
    (unit : AccessUnit) (journal : List (Call b)) :
    Follows (sink.journaled.inputFrame unit) journal (sink.inputFrame unit)
      fun entries a a' => entries = [.told (.inputFrame unit (.ok ()))]
        ∧ a = .ok () ∧ a' = .ok () := by
  intro w
  rcases sink.inputFrame_follows journal unit w with ⟨entries, a, heq, rfl, rfl⟩
  have htaken := hsink.inputFrame unit w
  exact ⟨_, _, heq, by rw [htaken], htaken, htaken⟩

namespace Transcoder

variable {t : Transcoder b} {sink : Sink σ} {told : List SinkCall}

/-- The codecs of the chains at work. -/
def table (t : Transcoder b) : Table :=
  ⟨t.lanes.audio.map (·.decode.codec), t.lanes.video.map (·.decode.codec)⟩

theorem table_get (t : Transcoder b) (kind : TrackType) :
    t.table.get kind = (t.lanes.get kind).map (·.decode.codec) := by
  cases kind <;> rfl

theorem table_setLane (t : Transcoder b) (kind : TrackType) (chain? : Option (Chain b)) :
    (t.setLane kind chain?).table = t.table.set kind (chain?.map (·.decode.codec)) := by
  cases kind <;> rfl

/-- The numbers of the contexts do not show in the table. -/
theorem table_bare (t : Transcoder b.numbered) : t.bare.table = t.table := by
  rcases t with ⟨config, usable, _ | audio, _ | video⟩ <;> rfl

/-- A kind is being transcoded if the table has a codec for it. -/
theorem isTranscoding_iff (t : Transcoder b) (kind : TrackType) :
    t.isTranscoding kind = true ↔ t.table.get kind ≠ none := by
  rw [table_get, isTranscoding]
  cases t.lanes.get kind <;> simp

/-- The ways in which adding a track can end in front of a sink that refuses nothing: the
    track passes as it is, a chain has opened for it, or none could be opened. -/
theorem addTrack_accepted (e : Engine b σ) (hsink : sink.Accepts) (track : Track)
    (t : Transcoder b) (w : σ) :
    let kind := track.trackType
    let opening := (Chain.build e track (.ofTrack (t.target kind) track)
      t.config.poolSize.toNat w).value
    let added := (t.addTrack e sink track w).value
    track.codec = t.target kind ∧ added = (.ok (), t.setLane kind none)
      ∨ track.codec ≠ t.target kind
        ∧ ((∃ c, opening = .ok c ∧ added = (.ok (), t.setLane kind (some c)))
          ∨ ∃ fault, opening = .error fault ∧ added = (.error fault, t.setLane kind none)) := by
  intro kind opening added
  by_cases hsame : track.codec = t.target track.trackType
  · refine .inl ⟨hsame, ?_⟩
    change (t.addTrack e sink track w).value = _
    unfold addTrack
    simp only [if_pos hsame, bind_value, pure_value, hsink.addTrack]
    rfl
  · refine .inr ⟨hsame, ?_⟩
    change (∃ c, _ ∧ (t.addTrack e sink track w).value = _)
      ∨ ∃ fault, _ ∧ (t.addTrack e sink track w).value = _
    unfold addTrack
    -- The lane is emptied before anything is opened, and a chain that has opened stays.
    rcases hopening : opening with fault | c
    · refine .inr ⟨fault, rfl, ?_⟩
      have hbuild : (Chain.build e track (.ofTrack (t.target track.trackType) track)
        (t.setLane track.trackType none).config.poolSize.toNat w).value = .error fault := hopening
      simp only [if_neg hsame, bind_value, hbuild]
      rfl
    · refine .inl ⟨c, rfl, ?_⟩
      have hbuild : (Chain.build e track (.ofTrack (t.target track.trackType) track)
        (t.setLane track.trackType none).config.poolSize.toNat w).value = .ok c := hopening
      simp only [if_neg hsame, bind_value, hbuild, pure_value, hsink.addTrack, setLane_setLane]
      rfl

/-- A flush empties both lanes if the sink takes every frame. -/
theorem flush_accepted (e : Engine b σ) (hsink : sink.Accepts) (h : t.Kinded) (w : σ) :
    (t.flush e sink w).value = (.ok (), t.cleared) := by
  have hlane (kind : TrackType) {t : Transcoder b} (h : t.Kinded) (w : σ) :
      (t.flushLane e sink kind w).value = (.ok (), t.setLane kind none) := by
    rcases flushLane_accepted e hsink kind h [] w with ⟨-, -, ⟨hok, -⟩, hempty⟩
    exact Prod.ext hok hempty
  unfold flush
  simp only [bind_value, hlane .audio h, hlane .video (h.setLane_none .audio)]
  rfl

/-- A frame leaves the table as it is. -/
theorem inputFrame_table (e : Engine b σ) (sink : Sink σ) (unit : AccessUnit)
    (t : Transcoder b) (w : σ) : (t.inputFrame e sink unit w).value.2.table = t.table := by
  unfold inputFrame
  by_cases hsame : unit.codec = t.target unit.trackType
  · simp only [if_pos hsame]
    rfl
  · simp only [if_neg hsame]
    rcases hc : t.lanes.get unit.trackType with _ | c
    · rfl
    · by_cases hcodec : c.decode.codec = unit.codec
      · -- The chain is put back for the codec it was there for.
        have hentry : t.table.get unit.trackType = some c.decode.codec := by
          rw [table_get, hc]
          rfl
        simp only [if_pos hcodec, bind_value, pure_value]
        rw [table_setLane, Option.map_some, c.input_codec, ← hentry, Lanes.set_get]
      · simp only [if_neg hcodec]
        rfl

/-- Every operation does to the table of a transcoder what it does to the one kept outside. -/
theorem perform_table (e : Engine b σ) (hsink : sink.Accepts) (op : Operation) (h : t.Kinded)
    (w : σ) :
    let r := (t.perform e sink op w).value
    r.2.table = t.table.after t.config op r.1 := by
  intro r
  -- Only adding a track puts a codec in, and its three endings are those of the table.
  cases op with
  | addTrack track =>
      rcases t.addTrack_accepted e hsink track w with
        ⟨hsame, hadded⟩ | ⟨hdiffers, ⟨c, hopening, hadded⟩ | ⟨fault, hopening, hadded⟩⟩
      · have hr : r = (.ok (), t.setLane track.trackType none) := hadded
        have hsame : track.codec = t.config.target track.trackType := hsame
        simp only [hr, table_setLane, Table.after, if_pos hsame, Option.map_none]
      · have hr : r = (.ok (), t.setLane track.trackType (some c)) := hadded
        have hdiffers : track.codec ≠ t.config.target track.trackType := hdiffers
        simp only [hr, table_setLane, Table.after, if_neg hdiffers, Option.map_some,
          (Chain.codecs_of_build hopening).1]
      · have hr : r = (.error fault, t.setLane track.trackType none) := hadded
        -- A chain that does not open says why, and the table goes by that.
        have hnone := Chain.noneSelected_of_build hopening
        have hsettings : (Settings.ofTrack (t.target track.trackType) track).codec
            = t.config.target track.trackType := Settings.ofTrack_codec ..
        rw [hsettings] at hnone
        simp only [hr, table_setLane, Table.after, if_pos (Or.inr hnone), Option.map_none]
  | inputFrame unit => exact t.inputFrame_table e sink unit w
  | flush =>
      have hr : r = (.ok (), t.cleared) := flush_accepted e hsink h w
      rw [hr]
      rfl
  | tracksCompleted => rfl
  | resetTracks => rfl

/-- Every history does to the table of a transcoder what it does to the one kept outside. -/
theorem run_table (e : Engine b σ) (hsink : sink.Accepts) (ops : List Operation)
    (h : t.Sound told) (w : σ) :
    let r := (t.run e sink ops w).value
    r.2.table = t.table.through t.config ops r.1 := by
  -- That the chains are in the right lanes is what each step takes from the steps before.
  induction ops generalizing t told w with
  | nil => rfl
  | cons op ops ih =>
      rcases perform_observed e sink op h [] w with ⟨calls, -, hstep⟩
      have htable := perform_table e hsink op h.kinded w
      have hrest := ih hstep.sound (t.perform e sink op w).world
      rw [htable, hstep.config] at hrest
      simp only [run, bind_value, pure_value, Table.through]
      exact hrest

/-- A frame in neither the target codec nor the one of the table is refused, and the world
    stays as it is. -/
theorem inputFrame_unlisted (e : Engine b σ) (sink : Sink σ) {unit : AccessUnit}
    (hdiffers : unit.codec ≠ t.target unit.trackType)
    (hunlisted : t.table.get unit.trackType ≠ some unit.codec) :
    t.inputFrame e sink unit = fun w => ⟨(.error (.trackNotReady unit.codec), t),
      [.trackMissing unit.codec (t.target unit.trackType)], w⟩ := by
  funext w
  refine inputFrame_refused e sink (fun c hc heq => hunlisted ?_) hdiffers w
  rw [table_get, hc, ← heq]
  rfl

/-- A frame in the target codec goes to the sink and nowhere else. -/
theorem inputFrame_forwards (e : Engine b σ) {sink : Sink σ} (hsink : sink.Accepts)
    {unit : AccessUnit} {t : Transcoder b.numbered} (hsame : unit.codec = t.target unit.trackType)
    (journal : List (Call b)) :
    Follows (t.inputFrame e.journaled sink.journaled unit) journal
      (t.bare.inputFrame e sink unit)
      fun entries a a' => entries = [.told (.inputFrame unit (.ok ()))] ∧ a = (.ok (), t)
        ∧ a' = (.ok (), t.bare) := by
  have hsame' : unit.codec = t.bare.target unit.trackType := hsame
  unfold inputFrame
  simp only [if_pos hsame, if_pos hsame']
  -- The one entry is what the sink was told, and it has taken the frame.
  refine (hsink.inputFrame_follows unit journal).bind ?_
  rintro _ _ _ ⟨rfl, rfl, rfl⟩
  exact .pure ⟨rfl, rfl, rfl⟩

/-- A frame in the codec of the table goes to the decoder of the chain, once. -/
theorem inputFrame_decodes (e : Engine b σ) (sink : Sink σ) {unit : AccessUnit}
    {t : Transcoder b.numbered} (hdiffers : unit.codec ≠ t.target unit.trackType)
    (hlisted : t.table.get unit.trackType = some unit.codec) (journal : List (Call b)) :
    Follows (t.inputFrame e.journaled sink.journaled unit) journal
      (t.bare.inputFrame e sink unit)
      fun entries a a' => a' = (a.1, a.2.bare) ∧ ∃ c before blank after,
        t.lanes.get unit.trackType = some c
          ∧ entries = before ++ .decode c.decoder ⟨unit.data, unit.dts, unit.pts⟩ blank :: after
          ∧ (∀ call ∈ before, call = .fresh) ∧ ∀ call ∈ after, call.Encodes c.encoder := by
  have hdiffers' : unit.codec ≠ t.bare.target unit.trackType := hdiffers
  rw [table_get] at hlisted
  rcases Option.map_eq_some_iff.mp hlisted with ⟨c, hc, hcodec⟩
  have hcodec' : c.bare.decode.codec = unit.codec := hcodec
  unfold inputFrame
  simp only [if_neg hdiffers, if_neg hdiffers', bare_get, hc, Option.map_some, if_pos hcodec,
    if_pos hcodec']
  -- The chain is the one whose codec the table has, and it is asked once.
  refine (c.input_follows e sink unit journal).bind ?_
  rintro entries ⟨outcome, c'⟩ _ ⟨rfl, -, -, -, before, blank, after, rfl, hbefore, hafter⟩
  refine .pure ⟨by rw [setLane_bare]; rfl, c, before, blank, after, rfl, ?_, hbefore, hafter⟩
  exact List.append_nil _

/-- The target and the table decide what becomes of a frame. -/
theorem inputFrame_decides (e : Engine b σ) {sink : Sink σ} (hsink : sink.Accepts)
    (unit : AccessUnit) (t : Transcoder b.numbered) (journal : List (Call b)) :
    let target := t.target unit.trackType
    let entry := t.table.get unit.trackType
    Follows (t.inputFrame e.journaled sink.journaled unit) journal
      (t.bare.inputFrame e sink unit)
      fun entries a a' => a' = (a.1, a.2.bare)
        ∧ (unit.codec = target → a' = (.ok (), t.bare)
          ∧ entries = [.told (.inputFrame unit (.ok ()))])
        ∧ (unit.codec ≠ target → entry = some unit.codec → ∃ c before blank after,
            t.lanes.get unit.trackType = some c
              ∧ entries = before ++ .decode c.decoder ⟨unit.data, unit.dts, unit.pts⟩ blank :: after
              ∧ (∀ call ∈ before, call = .fresh) ∧ ∀ call ∈ after, call.Encodes c.encoder)
        ∧ (unit.codec ≠ target → entry ≠ some unit.codec → entries = []) := by
  intro target entry
  -- First the target is asked, and then the table.
  by_cases hsame : unit.codec = target
  · refine (inputFrame_forwards e hsink hsame journal).mono ?_
    rintro entries a a' ⟨hentries, rfl, rfl⟩
    exact ⟨rfl, fun _ => ⟨rfl, hentries⟩, fun hdiffers => absurd hsame hdiffers,
      fun hdiffers => absurd hsame hdiffers⟩
  · by_cases hlisted : entry = some unit.codec
    · refine (inputFrame_decodes e sink hsame hlisted journal).mono ?_
      rintro entries a a' ⟨hbare, hdecodes⟩
      exact ⟨hbare, fun heq => absurd heq hsame, fun _ _ => hdecodes,
        fun _ hunlisted => absurd hlisted hunlisted⟩
    · have hunlisted : t.bare.table.get unit.trackType ≠ some unit.codec := by
        rw [table_bare]
        exact hlisted
      rw [inputFrame_unlisted e.journaled sink.journaled hsame hlisted,
        inputFrame_unlisted e sink hsame hunlisted]
      intro w
      refine ⟨[], (.error (.trackNotReady unit.codec), t), ?_, rfl, fun heq => absurd heq hsame,
        fun _ heq => absurd heq hlisted, fun _ _ => rfl⟩
      rw [List.append_nil]
      rfl

/-- In front of a sink that refuses nothing, adding a track fails only if no decoder or no
    encoder could be selected for it. -/
theorem addTrack_outcome (e : Engine b σ) (hsink : sink.Accepts) (track : Track)
    (t : Transcoder b) (w : σ) :
    let target := t.target track.trackType
    let opens := t.Opens e track.trackType (.addTrack track) w
    match (t.addTrack e sink track w).value.1 with
    | .ok () => track.codec = target ∨ opens
    | .error fault => fault.noneSelected track.codec target = true
        ∧ track.codec ≠ target ∧ ¬opens := by
  intro target opens
  rcases t.addTrack_accepted e hsink track w with
    ⟨hsame, hadded⟩ | ⟨hdiffers, ⟨c, hopening, hadded⟩ | ⟨fault, hopening, hadded⟩⟩
  · rw [hadded]
    exact .inl hsame
  · rw [hadded]
    exact .inr ⟨track, c, rfl, rfl, hdiffers, hopening⟩
  · rw [hadded]
    have hnone := Chain.noneSelected_of_build hopening
    rw [Settings.ofTrack_codec] at hnone
    refine ⟨hnone, hdiffers, ?_⟩
    -- What did not open has not opened.
    rintro ⟨track', c, heq, -, -, hopens⟩
    cases heq
    cases hopening.symm.trans hopens

/-- The table kept outside decides what becomes of a frame. Take any history of a transcoder
    in front of a sink that refuses nothing, with every call written to a journal, and keep
    the table by the operations and how they ended. Tracks of a kind are being transcoded if
    the table has a codec for it. Put in any frame after that. If it is in the target codec,
    the sink is told of this very frame and nobody else is asked anything. If it is in the
    codec of the table, it is decoded once, by the decoder at work. Any other frame finds no
    track, nobody is asked anything, and everything stays as it is. A track can only fail to
    be added because nothing could be selected for it. -/
theorem run_decides (config : Config) (start : Transcoder b.numbered)
    (hstart : ofConfig config = .ok start) (e : Engine b σ) (sink : Sink σ)
    (hsink : sink.Accepts) (ops : List Operation) (w : σ) :
    let alone := start.bare.run e sink ops w
    let reached := alone.value.2
    let active := Table.empty.through config ops alone.value.1
    (∀ kind, reached.isTranscoding kind = true ↔ active.get kind ≠ none)
    ∧ (∀ track,
        let target := config.target track.trackType
        let opens := reached.Opens e track.trackType (.addTrack track) alone.world
        match (reached.addTrack e sink track alone.world).value.1 with
        | .ok () => track.codec = target ∨ opens
        | .error fault => fault.noneSelected track.codec target = true
            ∧ track.codec ≠ target ∧ ¬opens)
    ∧ ∃ journal t,
      start.run e.journaled sink.journaled ops ([], w)
          = ⟨(alone.value.1, t), alone.notes, (journal, alone.world)⟩
        ∧ t.bare = reached
        ∧ ∀ unit,
          let target := config.target unit.trackType
          let next := reached.inputFrame e sink unit alone.world
          ∃ entries t',
            t.inputFrame e.journaled sink.journaled unit (journal, alone.world)
                = ⟨(next.value.1, t'), next.notes, (journal ++ entries, next.world)⟩
              ∧ t'.bare = next.value.2
              ∧ (unit.codec = target → next.value = (.ok (), reached)
                  ∧ entries = [.told (.inputFrame unit (.ok ()))])
              ∧ (unit.codec ≠ target → active.get unit.trackType = some unit.codec →
                  ∃ c before blank after, t.lanes.get unit.trackType = some c
                    ∧ entries
                      = before ++ .decode c.decoder ⟨unit.data, unit.dts, unit.pts⟩ blank :: after
                    ∧ (∀ call ∈ before, call = .fresh) ∧ ∀ call ∈ after, call.Encodes c.encoder)
              ∧ (unit.codec ≠ target → active.get unit.trackType ≠ some unit.codec →
                  entries = [] ∧ next = ⟨(.error (.trackNotReady unit.codec), reached),
                    [.trackMissing unit.codec target], alone.world⟩) := by
  intro alone reached active
  have hbare := ofConfig_bare hstart
  rcases ofConfig_sound hbare with ⟨rfl, hsound⟩
  rcases run_observed e sink ops hsound [] w with ⟨-, -, hconfig, -⟩
  have hconfig : reached.config = start.bare.config := hconfig
  have htarget (kind : TrackType) : reached.target kind = start.bare.config.target kind := by
    rw [target, hconfig]
  -- The table kept outside is the one of the codecs at work.
  have hactive : reached.table = active := by
    have hempty : start.bare.table = .empty := by
      rw [table, (ofConfig_ok hbare).2]
      rfl
    have htable : reached.table = start.bare.table.through start.bare.config ops alone.value.1 :=
      run_table e hsink ops hsound w
    rw [htable, hempty]
  rcases run_tidy e sink ops (ofConfig_tidy hstart) w with
    ⟨journal, ⟨outcomes, t⟩, hrun, hvalue, -⟩
  have houtcomes : outcomes = alone.value.1 := (congrArg Prod.fst hvalue).symm
  have ht : t.bare = reached := (congrArg Prod.snd hvalue).symm
  refine ⟨fun kind => ?_, fun track => ?_, journal, t, ?_, ht, fun unit => ?_⟩
  · rw [isTranscoding_iff, hactive]
  · rw [← htarget]
    exact addTrack_outcome e hsink track reached alone.world
  · rw [← houtcomes]
    exact hrun
  · rcases inputFrame_decides e hsink unit t journal alone.world with
      ⟨entries, ⟨outcome, t'⟩, hnext, hvalue, hforwards, hdecodes, hunlisted⟩
    -- The frame meets a transcoder with numbers, whose target and table are the same.
    have htarget' : t.target unit.trackType = start.bare.config.target unit.trackType := by
      rw [← htarget, ← ht]
      rfl
    rw [ht] at hnext hvalue hforwards
    rw [htarget'] at hforwards hdecodes hunlisted
    rw [← table_bare, ht, hactive] at hdecodes hunlisted
    refine ⟨entries, t', ?_, (congrArg Prod.snd hvalue).symm, hforwards, hdecodes,
      fun hdiffers hentry => ⟨hunlisted hdiffers hentry, ?_⟩⟩
    · -- The fault of an unlisted frame is the one that the run without a journal ends with.
      rw [hvalue]
      exact hnext
    · rw [← htarget] at hdiffers ⊢
      rw [← hactive] at hentry
      rw [inputFrame_unlisted e sink hdiffers hentry]

/-- No decoder opens for AAC. After both tracks were added the table has H.265 alone, so
    the next picture is decoded, and sound finds no track. -/
theorem run_decides_no_sound :
    let start : Transcoder Loopback.backend.numbered :=
      { config := .default, usable := rfl, lanes := ⟨none, none⟩ }
    let e := Loopback.engine { failingDecoders := [.aac] }
    let sink : Sink Loopback.Tally := .taking (fun _ => pure (.ok ())) fun _ => pure (.ok ())
    let ops : List Operation :=
      [.addTrack (.video .h265 640 480 ⟨0⟩), .inputFrame ⟨.h265, 0, 0, [1]⟩,
        .addTrack (.audio .aac 48000 2)]
    let alone := start.bare.run e sink ops {}
    let active := Table.empty.through .default ops alone.value.1
    let reached := start.run e.journaled sink.journaled ops ([], {})
    let decoded := reached.value.2.inputFrame e.journaled sink.journaled ⟨.h265, 40, 40, [2]⟩
      reached.world
    active = ⟨none, some .h265⟩ ∧ alone.value.2.isTranscoding .video = true
      ∧ alone.value.2.isTranscoding .audio = false
      ∧ (alone.value.2.inputFrame e sink ⟨.aac, 40, 40, [3]⟩ alone.world).value.1
        = .error (.trackNotReady .aac)
      ∧ ∃ n blank, .decode n ⟨[2], 40, 40⟩ blank ∈ decoded.world.1 := by
  intro start e sink ops alone active reached decoded
  have hactive : active = ⟨none, some .h265⟩ := by
    revert start e sink ops
    cbv
  rcases run_decides .default start rfl e sink ⟨fun _ _ => rfl, fun _ _ => rfl⟩ ops {} with
    ⟨htranscoding, -, journal, t, hrun, -, hframes⟩
  have htable : Table.empty.through .default ops (start.bare.run e sink ops {}).value.1
      = ⟨none, some .h265⟩ := hactive
  simp only [htable] at htranscoding hframes
  refine ⟨hactive, (htranscoding .video).mpr (Option.some_ne_none _), ?_, ?_, ?_⟩
  · exact Bool.eq_false_iff.mpr fun h => (htranscoding .audio).mp h rfl
  · -- The table has no codec for sound.
    rcases hframes ⟨.aac, 40, 40, [3]⟩ with ⟨entries, t', -, -, -, -, hunlisted⟩
    rw [(hunlisted (by decide) (Option.some_ne_none _).symm).2]
  · rcases hframes ⟨.h265, 40, 40, [2]⟩ with ⟨entries, t', hnext, -, -, hdecodes, -⟩
    rcases hdecodes (by decide) rfl with ⟨c, before, blank, after, -, rfl, -⟩
    have hdecoded : decoded.world.1
        = journal ++ (before ++ .decode c.decoder ⟨[2], 40, 40⟩ blank :: after) := by
      simp only [decoded, reached, hrun, hnext]
    rw [hdecoded]
    exact ⟨c.decoder, blank, by simp⟩

end Transcoder

end Recode
