import Mathlib
import Recode.Loopback
import Recode.Proofs.Opening
import Recode.Proofs.Relay

/-!
# What a sink sees

The promise of a transcoder to its sink, over whole histories. Whatever the engine
and the sink do, every track and every frame the sink sees is in the target codec
of its kind. A frame that a chain encoded comes only after the track of its encoder
was announced and before the sink was told to forget it. And the complaint that a
frame is of the wrong kind never comes from a chain: only the sink can make it.

All of this rests on one invariant of the lanes. A chain at work decodes from a
codec of the kind of its lane that is not the target, encodes to the target, and
was announced since the sink last forgot its tracks.

A chain that fails to open leaves its lane empty, and so does a chain that is
drained, even when the sink cuts the draining short. A track the sink refuses keeps
its chain. It was announced all the same.

## Main definitions

* `Announced`: A track was announced and not forgotten since.
* `SinkCall.OnTarget`: The call is about the target codec.
* `Chain.Fits`: What is true of every chain at work.
* `Transcoder.Sound`: What is true of a transcoder and the record of its sink.
* `Transcoder.Step`: What an operation may do.

## Theorems

* `Transcoder.perform_observed`, `Transcoder.run_observed`: Every operation, and so
  every history, keeps a transcoder sound.
* `Transcoder.sink_sees`: The promise.
-/

namespace Recode

open Act

variable {b : Backend} {σ : Type}

/-- The track was announced, whatever the sink said to it, and the sink was not told to
    forget its tracks since. -/
def Announced (track : Track) (calls : List SinkCall) : Prop :=
  ∃ before answer after, calls = before ++ .addTrack track answer :: after
    ∧ SinkCall.resetTracks ∉ after

namespace Announced

variable {track : Track} {calls more : List SinkCall}

theorem snoc (track : Track) (calls : List SinkCall) (answer : Except Fault Unit) :
    Announced track (calls ++ [.addTrack track answer]) :=
  ⟨calls, answer, [], rfl, List.not_mem_nil⟩

theorem append (h : Announced track calls) (hmore : SinkCall.resetTracks ∉ more) :
    Announced track (calls ++ more) := by
  rcases h with ⟨before, answer, after, rfl, hafter⟩
  refine ⟨before, answer, after ++ more, by rw [List.append_assoc]; rfl, ?_⟩
  intro hmem
  rcases List.mem_append.mp hmem with hmem | hmem
  · exact hafter hmem
  · exact hmore hmem

end Announced

namespace SinkCall

/-- The call is about a track or a frame in the target codec of its kind, if it is about
    one at all. -/
def OnTarget (config : Config) : SinkCall → Prop
  | .addTrack track _ => track.codec = config.target track.trackType
  | .inputFrame unit _ => unit.codec = config.target unit.trackType
  | .tracksCompleted => True
  | .resetTracks => True

/-- What the sink said, where it was asked. -/
def answer? : SinkCall → Option (Except Fault Unit)
  | .addTrack _ answer => some answer
  | .inputFrame _ answer => some answer
  | .tracksCompleted => none
  | .resetTracks => none

end SinkCall

/-- What is true of every chain at work for a kind of track, given what the sink was
    told so far. -/
structure Chain.Fits (config : Config) (kind : TrackType) (told : List SinkCall)
    (c : Chain b) : Prop where
  source : c.decode.codec.trackType = kind
  differs : c.decode.codec ≠ config.target kind
  encodes : c.encode.codec = config.target kind
  announced : Announced c.encode.settings.toTrack told

namespace Relayed

variable {codec : Codec} {calls : List SinkCall} {outcome : Except Fault Unit}

/-- A chain only passes frames on, and so makes a sink forget nothing. -/
theorem not_resetTracks (h : Relayed codec calls outcome) : SinkCall.resetTracks ∉ calls := by
  intro hmem
  rcases h.frames _ hmem with ⟨unit, answer, heq, -⟩
  cases heq

theorem onTarget {config : Config} (h : Relayed codec calls outcome)
    (hcodec : codec = config.target codec.trackType) : ∀ call ∈ calls, call.OnTarget config := by
  intro call hcall
  rcases h.frames call hcall with ⟨unit, answer, rfl, rfl⟩
  exact hcodec

theorem answered (h : Relayed codec calls outcome) {fault : Fault}
    (hfault : outcome = .error fault) :
    ∃ call ∈ calls, call.answer? = some outcome := by
  rcases h.faults fault hfault with ⟨unit, hunit⟩
  exact ⟨_, hunit, congrArg some hfault.symm⟩

end Relayed

namespace Chain.Fits

variable {config : Config} {kind : TrackType} {told calls : List SinkCall} {c : Chain b}

/-- The sink may be told more, as long as it is not told to forget its tracks. -/
theorem append (h : c.Fits config kind told) (hcalls : SinkCall.resetTracks ∉ calls) :
    c.Fits config kind (told ++ calls) :=
  { h with announced := h.announced.append hcalls }

/-- Only the codec decoded from and the settings encoded with matter. -/
theorem congr {c' : Chain b} (h : c.Fits config kind told)
    (hdecode : c'.decode.codec = c.decode.codec)
    (hencode : c'.encode.settings = c.encode.settings) : c'.Fits config kind told :=
  { source := by rw [hdecode]; exact h.source
    differs := by rw [hdecode]; exact h.differs
    encodes := by rw [EncodeStage.codec, hencode]; exact h.encodes
    announced := by rw [hencode]; exact h.announced }

theorem kind_eq (h : c.Fits config kind told) (usable : config.validate = .ok ()) :
    c.encode.trackType = kind := by
  have hencodes : c.encode.settings.codec = config.target kind := h.encodes
  rw [EncodeStage.trackType, Settings.trackType, hencodes, Config.target_trackType usable]

theorem onTarget (h : c.Fits config kind told) (usable : config.validate = .ok ()) :
    c.encode.codec = config.target c.encode.codec.trackType := by
  rw [h.encodes, Config.target_trackType usable]

end Chain.Fits

namespace Transcoder

variable {t t' t'' : Transcoder b} {op : Operation} {told calls more : List SinkCall}
  {outcome : Except Fault Unit}

/-- What is true of a transcoder and the record of its sink at any time. -/
structure Sound (t : Transcoder b) (told : List SinkCall) : Prop where
  chains : ∀ kind c, t.lanes.get kind = some c → c.Fits t.config kind told
  onTarget : ∀ call ∈ told, call.OnTarget t.config

/-- Every frame that an operation passes to the sink is the frame put in, already in
    the target codec, or comes from the chain of its kind and after the announcement
    of that chain's encoder. -/
def Sourced (t : Transcoder b) (op : Operation) (told calls : List SinkCall) : Prop :=
  ∀ sofar unit answer rest, calls = sofar ++ .inputFrame unit answer :: rest →
    op = .inputFrame unit ∧ unit.codec = t.target unit.trackType
    ∨ ∃ c, t.lanes.get unit.trackType = some c ∧ unit.codec = c.encode.codec
        ∧ Announced c.encode.settings.toTrack (told ++ sofar)

/-- What an operation may do: what it tells the sink, how it ends and where it leaves
    the transcoder. -/
structure Step (t : Transcoder b) (op : Operation) (told calls : List SinkCall)
    (outcome : Except Fault Unit) (t' : Transcoder b) : Prop where
  config : t'.config = t.config
  sound : t'.Sound (told ++ calls)
  sourced : t.Sourced op told calls
  mismatch : ∀ expected actual, outcome = .error (.trackTypeMismatch expected actual) →
    ∃ call ∈ calls, call.answer? = some outcome

/-- A transcoder stays sound while the sink is told more about the target codecs. -/
theorem Sound.append (h : t.Sound told) (htarget : ∀ call ∈ calls, call.OnTarget t.config)
    (hcalls : SinkCall.resetTracks ∉ calls) : t.Sound (told ++ calls) := by
  refine ⟨fun kind c hc => (h.chains kind c hc).append hcalls, ?_⟩
  exact List.forall_mem_append.mpr ⟨h.onTarget, htarget⟩

/-- A lane may be emptied, or given a chain that fits. -/
theorem Sound.setLane (h : t.Sound told) (kind : TrackType) (chain? : Option (Chain b))
    (hchain : ∀ c, chain? = some c → c.Fits t.config kind told) :
    (t.setLane kind chain?).Sound told := by
  refine ⟨?_, h.onTarget⟩
  intro k c hc
  by_cases hk : k = kind
  · subst hk
    rw [Transcoder.setLane, Lanes.get_set_self] at hc
    exact hchain c hc
  · rw [Transcoder.setLane, Lanes.get_set_of_ne _ hk] at hc
    exact h.chains k c hc

/-- The frames that a chain relays come from it, after its announcement. -/
theorem Sound.sourced (h : t.Sound told) {kind : TrackType} {c : Chain b}
    (hc : t.lanes.get kind = some c) (hrelayed : Relayed c.encode.codec calls outcome) :
    t.Sourced op told calls := by
  rintro sofar unit answer rest rfl
  have hfits := h.chains kind c hc
  rcases hrelayed.frames (.inputFrame unit answer)
    (List.mem_append_right _ (List.mem_cons_self ..)) with ⟨unit', answer', heq, hcodec⟩
  cases heq
  have hkind : unit.trackType = kind := by
    rw [AccessUnit.trackType, hcodec]
    exact hfits.kind_eq t.usable
  -- What the chain has said so far does not make the sink forget the announcement.
  refine .inr ⟨c, by rw [hkind]; exact hc, hcodec, hfits.announced.append ?_⟩
  exact fun hmem => hrelayed.not_resetTracks (List.mem_append_left _ hmem)

theorem sourced_of_silent (h : ∀ unit answer, SinkCall.inputFrame unit answer ∉ calls) :
    t.Sourced op told calls := by
  rintro sofar unit answer rest rfl
  exact absurd (List.mem_append_right _ (List.mem_cons_self ..)) (h unit answer)

/-- Adding a track leaves a sound transcoder, and the sink hears of one track at most. -/
theorem addTrack_observed (e : Engine b σ) (sink : Sink σ) (track : Track) (h : t.Sound told) :
    Observes (t.addTrack e.onSecond sink.observed track) (t.addTrack e sink track)
      fun calls r => t.Step (.addTrack track) told calls r.1 r.2 := by
  -- The chain before is given up first, whatever comes of the new one.
  have hempty : (t.setLane track.trackType none).Sound told :=
    h.setLane track.trackType none fun c hc => nomatch hc
  -- Whichever track it is that the sink hears of.
  have hannounced {tr : Track} {answer : Except Fault Unit}
      (htarget : tr.codec = t.target tr.trackType) :
      (t.setLane track.trackType none).Sound (told ++ [.addTrack tr answer]) :=
    hempty.append (fun call hcall => List.mem_singleton.mp hcall ▸ htarget)
      (fun hmem => nomatch List.mem_singleton.mp hmem)
  have hsilent {tr : Track} {answer : Except Fault Unit} :
      t.Sourced (.addTrack track) told [.addTrack tr answer] :=
    sourced_of_silent fun unit answer hmem => nomatch List.mem_singleton.mp hmem
  unfold addTrack
  by_cases hsame : track.codec = t.target track.trackType
  · -- The track is in the target codec and passes as it is, without a chain.
    simp only [if_pos hsame]
    refine Observes.bind_note _ (Observes.bind_recorded fun w => Observes.pure ?_)
    exact ⟨rfl, hannounced hsame, hsilent, fun _ _ _ => ⟨_, List.mem_singleton.mpr rfl, rfl⟩⟩
  · simp only [if_neg hsame, Chain.build_onSecond]
    refine Observes.bind_silent fun w => ?_
    rcases hbuild : (Chain.build e track (.ofTrack (t.target track.trackType) track)
      (t.setLane track.trackType none).config.poolSize.toNat w).value with fault | c
    · -- No chain opens: the sink hears nothing, and the fault is one of opening.
      refine Observes.pure ⟨rfl, by rw [List.append_nil]; exact hempty,
        sourced_of_silent fun _ _ => List.not_mem_nil, ?_⟩
      rintro expected actual heq
      cases heq
      exact absurd rfl (Chain.ne_mismatch_of_build hbuild expected actual)
    · -- The sink hears of the encoder's track, and the chain stays whatever it answers.
      rcases Chain.codecs_of_build hbuild with ⟨hcodec, hsettings⟩
      have htarget : c.encode.codec = t.target track.trackType := by
        rw [EncodeStage.codec, hsettings, Settings.ofTrack_codec]
      have hkind : c.encode.codec.trackType = track.trackType := by
        rw [htarget]
        exact Config.target_trackType t.usable _
      refine Observes.bind_note _ (Observes.bind_recorded fun w' => Observes.pure ?_)
      refine ⟨rfl, (hannounced ?_).setLane _ _ ?_, hsilent,
        fun _ _ _ => ⟨_, List.mem_singleton.mpr rfl, rfl⟩⟩
      · rw [← hsettings, Track.trackType, Settings.toTrack_codec]
        exact htarget.trans (by rw [← hkind]; rfl)
      · rintro c' hc
        cases hc
        rw [← hsettings]
        exact ⟨congrArg Codec.trackType hcodec, by rw [hcodec]; exact hsame, htarget,
          .snoc _ _ _⟩

/-- Nothing is said, nothing changes, and the fault is none the sink could make. -/
theorem Step.silent (h : t.Sound told) (houtcome : ∀ expected actual,
    outcome ≠ .error (.trackTypeMismatch expected actual)) :
    t.Step op told [] outcome t :=
  { config := rfl
    sound := by rw [List.append_nil]; exact h
    sourced := sourced_of_silent fun _ _ => List.not_mem_nil
    mismatch := fun expected actual heq => absurd heq (houtcome expected actual) }

/-- Putting a frame in passes on that frame itself or what its chain makes of it. -/
theorem inputFrame_observed (e : Engine b σ) (sink : Sink σ) (unit : AccessUnit)
    (h : t.Sound told) :
    Observes (t.inputFrame e.onSecond sink.observed unit) (t.inputFrame e sink unit)
      fun calls r => t.Step (.inputFrame unit) told calls r.1 r.2 := by
  -- Both ways to miss a chain end like this.
  have hmissing : Observes
      (do Act.note (.trackMissing unit.codec (t.target unit.trackType))
          return (.error (.trackNotReady unit.codec), t) : Act (List SinkCall × σ) _)
      (do Act.note (.trackMissing unit.codec (t.target unit.trackType))
          return (.error (.trackNotReady unit.codec), t) : Act σ _)
      fun calls r => t.Step (.inputFrame unit) told calls r.1 r.2 :=
    Observes.bind_note _ (Observes.pure (.silent h fun _ _ heq => nomatch heq))
  unfold inputFrame
  by_cases hsame : unit.codec = t.target unit.trackType
  · -- The frame is in the target codec and passes as it is.
    simp only [if_pos hsame]
    refine Observes.bind_recorded fun w => Observes.pure ⟨rfl, ?_, ?_, ?_⟩
    · exact h.append (fun call hcall => List.mem_singleton.mp hcall ▸ hsame)
        (fun hmem => nomatch List.mem_singleton.mp hmem)
    · -- The record of this operation has one entry, so this is the frame put in.
      rintro sofar unit' answer rest heq
      have hmem : SinkCall.inputFrame unit' answer ∈ sofar ++ .inputFrame unit' answer :: rest :=
        List.mem_append_right _ (List.mem_cons_self ..)
      rw [← heq] at hmem
      cases List.mem_singleton.mp hmem
      exact .inl ⟨rfl, hsame⟩
    · exact fun _ _ _ => ⟨_, List.mem_singleton.mpr rfl, rfl⟩
  · simp only [if_neg hsame]
    rcases hc : t.lanes.get unit.trackType with _ | c
    · exact hmissing
    · by_cases hcodec : c.decode.codec = unit.codec
      · -- The chain at work decodes this codec.
        simp only [if_pos hcodec]
        have hfits := h.chains _ c hc
        refine (c.input_relays e sink unit (hfits.kind_eq t.usable).symm).bind ?_
        rintro calls ⟨outcome, c'⟩ ⟨hrelayed, hsettings, hdecodes⟩
        refine Observes.pure ?_
        rw [List.append_nil]
        -- The chain may have changed inside, but decodes and encodes what it did before.
        exact {
          config := rfl
          sound := (h.append (hrelayed.onTarget (hfits.onTarget t.usable))
            hrelayed.not_resetTracks).setLane _ _ fun c'' heq => by
              cases heq
              exact (hfits.append hrelayed.not_resetTracks).congr hdecodes hsettings
          sourced := h.sourced hc hrelayed
          mismatch := fun _ _ heq => hrelayed.answered heq }
      · simp only [if_neg hcodec]
        exact hmissing

/-- Draining a lane leaves it empty, and the other one as it is. -/
theorem flushLane_observed (e : Engine b σ) (sink : Sink σ) (kind : TrackType) (h : t.Sound told) :
    Observes (t.flushLane e.onSecond sink.observed kind) (t.flushLane e sink kind)
      fun calls r => t.Step .flush told calls r.1 r.2
        ∧ ∀ k c, r.2.lanes.get k = some c → t.lanes.get k = some c := by
  unfold flushLane
  rcases hc : t.lanes.get kind with _ | c
  · exact Observes.pure ⟨.silent h fun _ _ heq => (nomatch heq), fun _ _ => id⟩
  · have hfits := h.chains kind c hc
    -- The lane is empty after the drain, also when the sink cut the drain short.
    have hrest : ∀ k c', (t.setLane kind none).lanes.get k = some c' → t.lanes.get k = some c' := by
      intro k c' hc'
      by_cases hk : k = kind
      · rw [hk, setLane, Lanes.get_set_self] at hc'
        cases hc'
      · rwa [setLane, Lanes.get_set_of_ne _ hk] at hc'
    have hstep {calls outcome} (hrelayed : Relayed c.encode.codec calls outcome) :
        t.Step .flush told calls outcome (t.setLane kind none) :=
      { config := rfl
        sound := (h.append (hrelayed.onTarget (hfits.onTarget t.usable))
          hrelayed.not_resetTracks).setLane _ _ fun _ heq => nomatch heq
        sourced := h.sourced hc hrelayed
        mismatch := fun _ _ heq => hrelayed.answered heq }
    refine (c.flush_relays e sink (hfits.source.trans (hfits.kind_eq t.usable).symm)).bind ?_
    intro calls outcome hrelayed
    cases outcome with
    | error fault =>
        refine Observes.pure ?_
        rw [List.append_nil]
        exact ⟨hstep hrelayed, hrest⟩
    | ok _ =>
        refine Observes.bind_note _ (Observes.pure ?_)
        rw [List.append_nil]
        exact ⟨hstep hrelayed, hrest⟩

/-- Two flushes in a row, where the second finds no more chains than the first. -/
theorem Step.append_flush (h : t.Step .flush told calls (.ok ()) t')
    (hlanes : ∀ k c, t'.lanes.get k = some c → t.lanes.get k = some c)
    (h' : t'.Step .flush (told ++ calls) more outcome t'') :
    t.Step .flush told (calls ++ more) outcome t'' := by
  refine ⟨h'.config.trans h.config, by rw [← List.append_assoc]; exact h'.sound, ?_, ?_⟩
  · intro sofar unit answer rest heq
    -- The frame is one that the first flush passed on, or one of the second.
    have hlater {sofar'} (hmore : more = sofar' ++ .inputFrame unit answer :: rest) :
        ∃ c, t.lanes.get unit.trackType = some c ∧ unit.codec = c.encode.codec
          ∧ Announced c.encode.settings.toTrack (told ++ (calls ++ sofar')) := by
      rcases h'.sourced sofar' unit answer rest hmore with ⟨hop, -⟩ | ⟨c, hc, hcodec, hann⟩
      · cases hop
      · exact ⟨c, hlanes _ c hc, hcodec, by rw [← List.append_assoc]; exact hann⟩
    -- The record is cut at the end of the first flush, or before it.
    rcases List.append_eq_append_iff.mp heq with ⟨sofar', rfl, hmore⟩ | ⟨rest', hcalls, hrest⟩
    · exact .inr (hlater hmore)
    · rcases rest' with _ | ⟨call, rest'⟩
      · rw [List.append_nil] at hcalls
        rw [← hcalls, ← List.append_nil calls]
        exact .inr (hlater hrest.symm)
      · cases hrest
        exact h.sourced sofar unit answer rest' hcalls
  · intro expected actual heq
    rcases h'.mismatch expected actual heq with ⟨call, hcall, hanswer⟩
    exact ⟨call, List.mem_append_right _ hcall, hanswer⟩

/-- Draining a transcoder drains both lanes, one after the other. -/
theorem flush_observed (e : Engine b σ) (sink : Sink σ) (h : t.Sound told) :
    Observes (t.flush e.onSecond sink.observed) (t.flush e sink)
      fun calls r => t.Step .flush told calls r.1 r.2 := by
  -- Sound is drained first. A fault there leaves the other chain at work.
  refine (flushLane_observed e sink .audio h).bind ?_
  rintro calls ⟨outcome, t'⟩ ⟨hstep, hlanes⟩
  cases outcome with
  | error fault =>
      refine Observes.pure ?_
      rw [List.append_nil]
      exact hstep
  | ok _ =>
      refine (flushLane_observed e sink .video hstep.sound).mono ?_
      exact fun more r hmore => hstep.append_flush hlanes hmore.1

/-- One operation keeps a transcoder sound, and tells the sink nothing it should not. -/
theorem perform_observed (e : Engine b σ) (sink : Sink σ) (op : Operation) (h : t.Sound told) :
    Observes (t.perform e.onSecond sink.observed op) (t.perform e sink op)
      fun calls r => t.Step op told calls r.1 r.2 := by
  cases op with
  | addTrack track => exact addTrack_observed e sink track h
  | inputFrame unit => exact inputFrame_observed e sink unit h
  | flush => exact flush_observed e sink h
  | tracksCompleted =>
      simp only [perform, tracksCompleted, Sink.observed]
      refine Observes.bind_recorded fun w => ?_
      refine Observes.pure ?_
      exact {
        config := rfl
        sound := h.append (fun call hcall => List.mem_singleton.mp hcall ▸ trivial)
          (fun hmem => nomatch List.mem_singleton.mp hmem)
        sourced := sourced_of_silent fun _ _ hmem => nomatch List.mem_singleton.mp hmem
        mismatch := fun _ _ heq => nomatch heq }
  | resetTracks =>
      simp only [perform, resetTracks, Sink.observed, bind_assoc, pure_bind]
      refine Observes.bind_recorded fun w => ?_
      refine Observes.pure ?_
      -- The announcements are forgotten, but so are the chains that need them.
      exact {
        config := rfl
        sound := ⟨fun kind c hc => (by cases kind <;> cases hc), List.forall_mem_append.mpr
          ⟨h.onTarget, fun call hcall => List.mem_singleton.mp hcall ▸ trivial⟩⟩
        sourced := sourced_of_silent fun _ _ hmem => nomatch List.mem_singleton.mp hmem
        mismatch := fun _ _ heq => nomatch heq }

/-- So does a whole history. -/
theorem run_observed (e : Engine b σ) (sink : Sink σ) (ops : List Operation) (h : t.Sound told) :
    Observes (t.run e.onSecond sink.observed ops) (t.run e sink ops)
      fun calls r => r.2.config = t.config ∧ r.2.Sound (told ++ calls) := by
  -- The induction is on the history. What it begins with is any sound transcoder and record.
  induction ops generalizing t told with
  | nil => exact Observes.pure ⟨rfl, by rw [List.append_nil]; exact h⟩
  | cons op ops ih =>
      -- How the operation ends makes no difference to what may follow.
      refine (perform_observed e sink op h).bind ?_
      rintro calls ⟨outcome, t'⟩ hstep
      refine (ih hstep.sound).bind ?_
      rintro more ⟨outcomes, t''⟩ ⟨hconfig, hsound⟩
      refine Observes.pure ⟨hconfig.trans hstep.config, ?_⟩
      rw [List.append_nil, ← List.append_assoc]
      exact hsound

theorem ofConfig_sound {config : Config} {t : Transcoder b} (h : ofConfig config = .ok t) :
    t.config = config ∧ t.Sound [] := by
  rcases ofConfig_ok h with ⟨hconfig, hlanes⟩
  refine ⟨hconfig, ⟨fun kind c hc => ?_, fun call hcall => absurd hcall List.not_mem_nil⟩⟩
  rw [hlanes] at hc
  cases kind <;> cases hc

/-- What the sink sees. Take any history of a transcoder and any operation after it,
    with every call on the sink written to a record. The record changes nothing else.
    All tracks and frames in it are in the target codec of their kind. A frame that the
    operation passes on is the frame put in, or comes from the chain of its kind, whose
    encoder's track was announced before and not forgotten since. No operation ends with
    the complaint about the kind of a frame unless the sink has made it. A chain at work
    decodes from another codec of its kind and encodes to the target. -/
theorem sink_sees (config : Config) (start : Transcoder b) (hstart : ofConfig config = .ok start)
    (e : Engine b σ) (sink : Sink σ) (ops : List Operation) (op : Operation) (w : σ) :
    let alone := start.run e sink ops w
    let next := alone.value.2.perform e sink op alone.world
    let before := start.run e.onSecond sink.observed ops ([], w)
    let after := before.value.2.perform e.onSecond sink.observed op before.world
    ∃ told calls, before = ⟨alone.value, alone.notes, (told, alone.world)⟩
      ∧ after = ⟨next.value, next.notes, (told ++ calls, next.world)⟩
      ∧ (∀ call ∈ told ++ calls, call.OnTarget config)
      ∧ (∀ sofar unit answer rest, calls = sofar ++ .inputFrame unit answer :: rest →
          op = .inputFrame unit ∧ unit.codec = config.target unit.trackType
          ∨ ∃ c, alone.value.2.lanes.get unit.trackType = some c ∧ unit.codec = c.encode.codec
              ∧ Announced c.encode.settings.toTrack (told ++ sofar))
      ∧ (∀ expected actual, next.value.1 = .error (.trackTypeMismatch expected actual) →
          ∃ call ∈ calls, call.answer? = some (.error (.trackTypeMismatch expected actual)))
      ∧ (∀ kind c, next.value.2.lanes.get kind = some c →
          c.decode.codec.trackType = kind ∧ c.decode.codec ≠ config.target kind
            ∧ c.encode.codec = config.target kind) := by
  intro alone next before after
  rcases ofConfig_sound hstart with ⟨rfl, hsound⟩
  rcases run_observed e sink ops hsound [] w with ⟨told, hbefore, hconfig, hsound⟩
  rcases perform_observed e sink op hsound told alone.world with ⟨calls, hafter, hstep⟩
  have hbefore : before = ⟨alone.value, alone.notes, (told, alone.world)⟩ := hbefore
  refine ⟨told, calls, hbefore, ?_, ?_, ?_, ?_, ?_⟩
  · simp only [after, hbefore]
    exact hafter
  · rw [← hconfig, ← hstep.config]
    exact hstep.sound.onTarget
  · -- The configuration has stayed the same throughout, so its targets are those of the start.
    have hsourced := hstep.sourced
    simp only [Sourced, target, hconfig] at hsourced
    exact hsourced
  · intro expected actual heq
    rw [← heq]
    exact hstep.mismatch expected actual heq
  · intro kind c hc
    have hfits := hstep.sound.chains kind c hc
    rw [hstep.config, hconfig] at hfits
    exact ⟨hfits.source, hfits.differs, hfits.encodes⟩

/-- An H.265 stream that the decoder and the encoder keep back by a frame each. The sink
    sees the announced track at once and the frames at the flush, all in H.264. -/
theorem sink_sees_delayed_stream :
    let start : Transcoder Loopback.backend :=
      { config := .default, usable := rfl, lanes := ⟨none, none⟩ }
    let e := Loopback.engine { decoderDelay := 1, encoderDelay := 1 }
    let ops : List Operation :=
      [.addTrack (.video .h265 640 480 ⟨0⟩), .inputFrame ⟨.h265, 0, 0, [1]⟩,
        .inputFrame ⟨.h265, 40, 40, [2]⟩]
    let before := start.run e.onSecond Sink.noting.observed ops ([], {})
    let after := before.value.2.perform e.onSecond Sink.noting.observed .flush before.world
    ofConfig .default = .ok start ∧ before.world.1.length = 1 ∧ after.world.1.length = 3
      ∧ ∀ call ∈ after.world.1, call.OnTarget .default := by
  intro start e ops before after
  refine ⟨rfl, by cbv, by cbv, ?_⟩
  rcases sink_sees .default start rfl e .noting ops .flush {} with
    ⟨told, calls, -, hafter, htarget, -⟩
  have hrecord : after.world.1 = told ++ calls := congrArg (fun o => o.world.1) hafter
  rw [hrecord]
  exact htarget

end Transcoder

end Recode
