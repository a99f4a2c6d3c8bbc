import Recode.Proofs.Draining

/-!
# Sound and pictures keep apart

A transcoder has one lane for sound and one for pictures, and whatever is done about
the one does not show in the other. This is a statement about two runs of a transcoder,
one of which lacks all operations about the other kind of track. What is left looks the
same in both: how the operations end, what the sink is told and the chain at work.

The engine must not be a channel between the lanes, so its answers depend on the
arguments alone, the context asked among them. Nor may the sink be one, and it refuses
nothing. Draining would otherwise end with the refusal of a sound frame, before the
pictures are drained.

Adding a track is a fresh start for the same reason. The new chain is determined by the
track and the configuration, so nothing of what was done before shows in it.

## Main definitions

* `Operation.kind?`, `SinkCall.kind?`: The kind of track that something is about.
* `Operation.concerns`: An operation can make a difference to a kind of track.
* `callsFor`, `outcomesFor`: What the sink is told of a kind of track, and how the operations
  end that concern it.
* `Transcoder.tells`: What the sink is told in a run.
* `Transcoder.SameFor`: Two runs look the same from a kind of track.

## Theorems

* `Loopback.engine_steady`: The loopback engine is no channel.
* `Transcoder.perform_alongside`: An operation looks the same from lanes that are equal.
* `Transcoder.run_alongside`: So does a run, with or without the operations about the
  other kind.
* `Transcoder.run_filter`: The operations about the other kind do not show.
* `Transcoder.run_addTrack`: Nothing from before a track is added shows.
-/

namespace Recode

open Act

/-- The kind of track that an operation is about, if it is about one. -/
def Operation.kind? : Operation → Option TrackType
  | .addTrack track => some track.trackType
  | .inputFrame unit => some unit.trackType
  | .tracksCompleted | .resetTracks | .flush => none

/-- The operation is about this kind of track, or not about one kind more than about the
    other. -/
def Operation.concerns (kind : TrackType) (op : Operation) : Bool := op.kind?.all (· = kind)

theorem Operation.concerns_of_kind? {kind : TrackType} {op : Operation}
    (h : op.kind? = some kind) : op.concerns kind = true := by
  rw [concerns, h]
  exact decide_eq_true rfl

/-- The kind of track that a call on a sink is about, if it is about one. -/
def SinkCall.kind? : SinkCall → Option TrackType
  | .addTrack track _ => some track.trackType
  | .inputFrame unit _ => some unit.trackType
  | .tracksCompleted | .resetTracks => none

/-- The calls about a kind of track. -/
def callsFor (kind : TrackType) (calls : List SinkCall) : List SinkCall :=
  calls.filter fun call => call.kind? = some kind

/-- How the operations end that concern a kind of track. -/
def outcomesFor (kind : TrackType) (ops : List Operation) (outcomes : List (Except Fault Unit)) :
    List (Except Fault Unit) :=
  ((ops.zip outcomes).filter fun entry => entry.1.concerns kind).map Prod.snd

section

variable {kind other : TrackType} {calls more : List SinkCall} {units : List AccessUnit}

theorem callsFor_append (kind : TrackType) (calls more : List SinkCall) :
    callsFor kind (calls ++ more) = callsFor kind calls ++ callsFor kind more :=
  List.filter_append ..

theorem callsFor_of_ne (hne : other ≠ kind) (h : ∀ call ∈ calls, call.kind? = some other) :
    callsFor kind calls = [] := by
  refine List.filter_eq_nil_iff.mpr fun call hcall => ?_
  rw [h call hcall, decide_eq_true_eq, Option.some.injEq]
  exact hne

theorem kind?_of_mem_taken (hunits : ∀ unit ∈ units, unit.trackType = kind) :
    ∀ call ∈ taken units, call.kind? = some kind := by
  intro call hcall
  rcases List.mem_map.mp hcall with ⟨unit, hunit, rfl⟩
  exact congrArg some (hunits unit hunit)

theorem outcomesFor_cons_of_pos {op : Operation} (hop : op.concerns kind = true)
    (ops : List Operation) (outcome : Except Fault Unit) (outcomes : List (Except Fault Unit)) :
    outcomesFor kind (op :: ops) (outcome :: outcomes)
      = outcome :: outcomesFor kind ops outcomes := by
  simp only [outcomesFor, List.zip_cons_cons, List.filter_cons, hop, if_true, List.map_cons]

theorem outcomesFor_cons_of_neg {op : Operation} (hop : ¬op.concerns kind = true)
    (ops : List Operation) (outcome : Except Fault Unit) (outcomes : List (Except Fault Unit)) :
    outcomesFor kind (op :: ops) (outcome :: outcomes) = outcomesFor kind ops outcomes := by
  simp only [outcomesFor, List.zip_cons_cons, List.filter_cons, if_neg hop]

theorem outcomesFor_of_concerns {ops : List Operation} {outcomes : List (Except Fault Unit)}
    (hops : ∀ op ∈ ops, op.concerns kind = true) (hlength : outcomes.length = ops.length) :
    outcomesFor kind ops outcomes = outcomes := by
  -- Nothing is filtered, and a row that was paired comes back if it was no longer.
  rw [outcomesFor, List.filter_eq_self.mpr fun entry hentry => hops _ (List.of_mem_zip hentry).1]
  exact List.map_snd_zip (Nat.le_of_eq hlength)

end

/-- The world of the loopback engine is a tally that it never looks at. -/
theorem Loopback.engine_steady (setup : Loopback.Setup) : (Loopback.engine setup).Steady :=
  { findDecoder := fun l w w' => rfl
    findEncoder := fun l w w' => rfl
    openDecoder := by
      intro i track w w'
      -- Which openings fail is part of the setup.
      by_cases hfails : i.codec ∈ setup.failingDecoders
      · simp only [engine, if_pos hfails, Act.pure_value]
      · simp only [engine, if_neg hfails]
        rfl
    openEncoder := by
      intro i settings w w'
      by_cases hfails : i.codec ∈ setup.failingEncoders
      · simp only [engine, if_pos hfails, Act.pure_value]
      · simp only [engine, if_neg hfails]
        rfl
    openConverter := by
      intro source target w w'
      by_cases hrejected : source.format ∈ setup.rejectedConversions
      · simp only [engine, if_pos hrejected]
        rfl
      · simp only [engine, if_neg hrejected]
        rfl
    pixelFormats := by
      intro context w w'
      simp only [engine]
      cases context.kind <;> rfl
    decode := fun context packet blank w w' => rfl
    drainDecoder := fun context blank w w' => rfl
    encode := fun context picture w w' => rfl
    drainEncoder := fun context w w' => rfl
    convert := fun context picture blank w w' => rfl
    fresh := fun w w' => rfl }

namespace Transcoder

variable {b : Backend} {σ : Type} {t t' : Transcoder b} {kind : TrackType}
  {told told' : List SinkCall} {e : Engine b σ} {sink : Sink σ}

/-- What the sink is told while a transcoder does one thing after another. -/
def tells (e : Engine b σ) (sink : Sink σ) (ops : List Operation) (t : Transcoder b) (w : σ) :
    List SinkCall :=
  (t.run e.onSecond sink.observed ops ([], w)).world.1

/-- A track that is added tells the sink the same, and puts the same into both lanes. -/
theorem addTrack_alongside (he : e.Steady) (hsink : sink.Accepts) (track : Track)
    (hconfig : t.config = t'.config) (w w' : σ) :
    Alongside (t.addTrack e.onSecond sink.observed track) w
      (t'.addTrack e.onSecond sink.observed track) w'
      fun calls r _ calls' r' _ => calls = calls' ∧ r.1 = r'.1
        ∧ (∀ call ∈ calls, call.kind? = some track.trackType)
        ∧ ∃ lane, r.2 = t.setLane track.trackType lane
          ∧ r'.2 = t'.setLane track.trackType lane := by
  have htarget : t'.target track.trackType = t.target track.trackType := by
    rw [target, target, hconfig]
  unfold addTrack
  simp only [htarget]
  by_cases hsame : track.codec = t.target track.trackType
  · -- The track is in the target codec and passes as it is.
    simp only [if_pos hsame]
    refine .bind_note _ _ (.bind_recorded (.pure ?_))
    rw [hsink.addTrack, hsink.addTrack]
    exact ⟨rfl, rfl, fun call hcall => List.mem_singleton.mp hcall ▸ rfl, none, rfl, rfl⟩
  · simp only [if_neg hsame, Chain.build_onSecond]
    have hpool : (t'.setLane track.trackType none).config = t.config := hconfig.symm
    rw [hpool]
    -- Nothing but the track and the configuration decides which chain opens, if one does.
    refine Alongside.bind_silent (Chain.build_agree he.agree track _ _) trivial fun v v' _ => ?_
    rcases (Chain.build e track _ _ w).value with fault | chain
    · exact .pure ⟨rfl, rfl, fun call hcall => absurd hcall List.not_mem_nil, none, rfl, rfl⟩
    · refine .bind_note _ _ (.bind_recorded (.pure ?_))
      rw [hsink.addTrack, hsink.addTrack]
      -- The track announced is of the target codec, and so of the kind of the source.
      have hkind : (Settings.ofTrack (t.target track.trackType) track).toTrack.trackType
          = track.trackType := by
        rw [Track.trackType, Settings.toTrack_codec, Settings.ofTrack_codec]
        exact Config.target_trackType t.usable _
      refine ⟨rfl, rfl, ?_, some chain, ?_, ?_⟩
      · exact fun call hcall => List.mem_singleton.mp hcall ▸ congrArg some hkind
      · rw [setLane_setLane]
      · rw [setLane_setLane]

/-- So does a frame, if both lanes were the same before. -/
theorem inputFrame_alongside (he : e.Steady) (hsink : sink.Accepts) (unit : AccessUnit)
    (hconfig : t.config = t'.config)
    (hlane : t.lanes.get unit.trackType = t'.lanes.get unit.trackType)
    (hkind : ∀ c, t.lanes.get unit.trackType = some c → c.encode.trackType = unit.trackType)
    (w w' : σ) :
    Alongside (t.inputFrame e.onSecond sink.observed unit) w
      (t'.inputFrame e.onSecond sink.observed unit) w'
      fun calls r _ calls' r' _ => calls = calls' ∧ r.1 = r'.1
        ∧ (∀ call ∈ calls, call.kind? = some unit.trackType)
        ∧ ∃ lane, r.2 = t.setLane unit.trackType lane ∧ r'.2 = t'.setLane unit.trackType lane := by
  have htarget : t'.target unit.trackType = t.target unit.trackType := by
    rw [target, target, hconfig]
  -- Without a chain that takes the frame, both lanes stay as they are.
  have hsame : ∃ lane, t = t.setLane unit.trackType lane ∧ t' = t'.setLane unit.trackType lane := by
    refine ⟨t.lanes.get unit.trackType, (setLane_get t _).symm, ?_⟩
    rw [hlane]
    exact (setLane_get t' _).symm
  have hsilent : ∀ call ∈ ([] : List SinkCall), call.kind? = some unit.trackType :=
    fun call hcall => absurd hcall List.not_mem_nil
  unfold inputFrame
  simp only [htarget, ← hlane]
  by_cases hcodec : unit.codec = t.target unit.trackType
  · simp only [if_pos hcodec]
    refine .bind_recorded (.pure ?_)
    rw [hsink.inputFrame, hsink.inputFrame]
    exact ⟨rfl, rfl, fun call hcall => List.mem_singleton.mp hcall ▸ rfl, hsame⟩
  · simp only [if_neg hcodec]
    rcases hc : t.lanes.get unit.trackType with _ | c
    · exact .bind_note _ _ (.pure ⟨rfl, rfl, hsilent, hsame⟩)
    · by_cases hdecodes : c.decode.codec = unit.codec
      · simp only [if_pos hdecodes]
        refine Alongside.bind (c.input_alongside he.agree sink.alongside_self unit
          (hkind c hc).symm trivial) ?_
        rintro calls ⟨outcome, c₁⟩ v calls' ⟨outcome', c₁'⟩ v' ⟨⟨unit?, hunit, hd, hd'⟩, hc₁, -⟩
        cases hc₁
        rcases hd.taken hsink with ⟨rfl, rfl⟩
        rcases hd'.taken hsink with ⟨rfl, rfl⟩
        refine .pure ⟨rfl, rfl, ?_, some c₁, rfl, rfl⟩
        rw [List.append_nil]
        exact kind?_of_mem_taken fun u hu => hunit u (Option.mem_toList.mp hu)
      · simp only [if_neg hdecodes]
        exact .bind_note _ _ (.pure ⟨rfl, rfl, hsilent, hsame⟩)

/-- Draining a lane looks the same for one kind of track if the lanes of that kind are. -/
theorem flushLane_same (he : e.Steady) (hsink : sink.Accepts) (k : TrackType) (h : t.Kinded)
    (h' : t'.Kinded) (hlane : t.lanes.get kind = t'.lanes.get kind) (w w' : σ) :
    Alongside (t.flushLane e.onSecond sink.observed k) w
      (t'.flushLane e.onSecond sink.observed k) w'
      fun calls r _ calls' r' _ => callsFor kind calls = callsFor kind calls'
        ∧ r = (.ok (), t.setLane k none) ∧ r' = (.ok (), t'.setLane k none) := by
  have haccepted := flushLane_accepted e hsink k h
  have haccepted' := flushLane_accepted e hsink k h'
  by_cases hk : k = kind
  · -- The same chain is drained in both runs, and no refusal ends a drain early.
    subst hk
    refine Alongside.mono (Alongside.and_observes (flushLane_alongside he.agree
      sink.alongside_self hsink h hlane.symm trivial) haccepted haccepted') ?_
    rintro calls ⟨outcome, t₁⟩ v calls' ⟨outcome', t₁'⟩ v' ⟨⟨hcut, ht₁, ht₁'⟩, ⟨⟨hok, -⟩, -⟩, -⟩
    cases hok
    cases ht₁
    cases ht₁'
    rcases hcut with ⟨units, -, rfl, rfl, -⟩
    exact ⟨rfl, rfl, rfl⟩
  · -- Neither drain is about the kind in question.
    refine (Alongside.of_observes haccepted haccepted' w w').mono ?_
    rintro calls ⟨outcome, t₁⟩ v calls' ⟨outcome', t₁'⟩ v'
      ⟨⟨⟨hok, units, rfl, hunits⟩, ht₁⟩, ⟨hok', units', rfl, hunits'⟩, ht₁'⟩
    cases hok
    cases hok'
    cases ht₁
    cases ht₁'
    rw [callsFor_of_ne hk (kind?_of_mem_taken hunits),
      callsFor_of_ne hk (kind?_of_mem_taken hunits')]
    exact ⟨rfl, rfl, rfl⟩

/-- A flush looks the same for one kind of track if the lanes of that kind are. -/
theorem flush_same (he : e.Steady) (hsink : sink.Accepts) (h : t.Kinded) (h' : t'.Kinded)
    (hlane : t.lanes.get kind = t'.lanes.get kind) (w w' : σ) :
    Alongside (t.flush e.onSecond sink.observed) w (t'.flush e.onSecond sink.observed) w'
      fun calls r _ calls' r' _ => callsFor kind calls = callsFor kind calls'
        ∧ r = (.ok (), t.cleared) ∧ r' = (.ok (), t'.cleared) := by
  unfold flush
  refine (flushLane_same he hsink .audio h h' hlane w w').bind ?_
  rintro calls ⟨outcome, t₁⟩ v calls' ⟨outcome', t₁'⟩ v' ⟨hcalls, ht₁, ht₁'⟩
  cases ht₁
  cases ht₁'
  -- The lanes are still equal, for the first drain empties them both or touches neither.
  have hlane₁ : (t.setLane .audio none).lanes.get kind
      = (t'.setLane .audio none).lanes.get kind := by
    cases kind
    · rfl
    · exact hlane
  refine (flushLane_same he hsink .video (h.setLane_none _) (h'.setLane_none _) hlane₁ v v').mono ?_
  rintro more r u more' r' u' ⟨hmore, hr, hr'⟩
  rw [callsFor_append, callsFor_append, hcalls, hmore]
  exact ⟨rfl, hr, hr'⟩

/-- An operation that concerns a kind of track looks the same for that kind if the lanes
    are. If it is about this kind alone, the sink is told the same. -/
theorem perform_alongside (he : e.Steady) (hsink : sink.Accepts) {op : Operation}
    (hop : op.concerns kind = true) (hconfig : t.config = t'.config)
    (hlane : t.lanes.get kind = t'.lanes.get kind) (h : t.Sound told) (h' : t'.Sound told')
    (w w' : σ) :
    Alongside (t.perform e.onSecond sink.observed op) w (t'.perform e.onSecond sink.observed op) w'
      fun calls r _ calls' r' _ => callsFor kind calls = callsFor kind calls' ∧ r.1 = r'.1
        ∧ r.2.lanes.get kind = r'.2.lanes.get kind
        ∧ (op.kind? = some kind → calls = calls') := by
  -- The first two are about one kind of track, and the others about both.
  cases op with
  | addTrack track =>
      cases of_decide_eq_true hop
      refine (addTrack_alongside he hsink track hconfig w w').mono ?_
      rintro calls ⟨outcome, t₁⟩ v calls' ⟨outcome', t₁'⟩ v' ⟨rfl, rfl, -, lane, rfl, rfl⟩
      exact ⟨rfl, rfl, by rw [get_setLane_self, get_setLane_self], fun _ => rfl⟩
  | inputFrame unit =>
      cases of_decide_eq_true hop
      refine (inputFrame_alongside he hsink unit hconfig hlane (fun c hc => (h.kinded _ c hc).2) w
        w').mono ?_
      rintro calls ⟨outcome, t₁⟩ v calls' ⟨outcome', t₁'⟩ v' ⟨rfl, rfl, -, lane, rfl, rfl⟩
      exact ⟨rfl, rfl, by rw [get_setLane_self, get_setLane_self], fun _ => rfl⟩
  | flush =>
      refine (flush_same he hsink h.kinded h'.kinded hlane w w').mono ?_
      rintro calls r v calls' r' v' ⟨hcalls, rfl, rfl⟩
      refine ⟨hcalls, rfl, rfl, fun hkind => ?_⟩
      cases hkind
  | tracksCompleted =>
      simp only [perform, tracksCompleted, Sink.observed]
      refine .bind_recorded (.pure ⟨rfl, rfl, hlane, fun hkind => ?_⟩)
      cases hkind
  | resetTracks =>
      simp only [perform, resetTracks, Sink.observed, bind_assoc, pure_bind]
      refine .bind_recorded (.pure ⟨rfl, rfl, rfl, fun hkind => ?_⟩)
      cases hkind

/-- An operation about the other kind of track tells the sink nothing about this one, and
    leaves its lane as it is. -/
theorem perform_elsewhere (he : e.Steady) (hsink : sink.Accepts) {op : Operation}
    (hop : ¬op.concerns kind = true) (h : t.Sound told) :
    Observes (t.perform e.onSecond sink.observed op) (t.perform e sink op)
      fun calls r => t.Step op told calls r.1 r.2 ∧ callsFor kind calls = []
        ∧ r.2.lanes.get kind = t.lanes.get kind := by
  have hobserved := perform_observed e sink op h
  -- Only adding a track and putting in a frame are about one kind.
  cases op with
  | addTrack track =>
      have hne : track.trackType ≠ kind := fun heq => hop (decide_eq_true heq)
      refine hobserved.of_alongside fun w => (addTrack_alongside he hsink track rfl w w).mono ?_
      rintro calls ⟨outcome, t₁⟩ v calls' r' v' ⟨-, -, hcalls, lane, rfl, -⟩
      exact ⟨callsFor_of_ne hne hcalls, get_setLane_of_ne _ hne.symm _⟩
  | inputFrame unit =>
      have hne : unit.trackType ≠ kind := fun heq => hop (decide_eq_true heq)
      refine hobserved.of_alongside fun w => (inputFrame_alongside he hsink unit rfl rfl
        (fun c hc => (h.kinded _ c hc).2) w w).mono ?_
      rintro calls ⟨outcome, t₁⟩ v calls' r' v' ⟨-, -, hcalls, lane, rfl, -⟩
      exact ⟨callsFor_of_ne hne hcalls, get_setLane_of_ne _ hne.symm _⟩
  | tracksCompleted => exact absurd rfl hop
  | resetTracks => exact absurd rfl hop
  | flush => exact absurd rfl hop

/-- How a run and another with the operations left that concern a kind of track look from
    that kind. -/
structure SameFor (kind : TrackType) (ops : List Operation) (calls : List SinkCall)
    (r : List (Except Fault Unit) × Transcoder b) (calls' : List SinkCall)
    (r' : List (Except Fault Unit) × Transcoder b) : Prop where
  heard : callsFor kind calls = callsFor kind calls'
  outcomes : outcomesFor kind ops r.1 = r'.1
  lane : r.2.lanes.get kind = r'.2.lanes.get kind
  /-- If all operations are about the kind, the sink hears of nothing else. -/
  told : (∀ op ∈ ops, op.kind? = some kind) → calls = calls'

namespace SameFor

variable {op : Operation} {ops : List Operation} {outcome : Except Fault Unit}
  {calls calls' more more' : List SinkCall} {r r' : List (Except Fault Unit) × Transcoder b}

/-- Both runs perform an operation more. -/
theorem cons_both (h : SameFor kind ops more r more' r') (hop : op.concerns kind = true)
    (hcalls : callsFor kind calls = callsFor kind calls')
    (htold : op.kind? = some kind → calls = calls') :
    SameFor kind (op :: ops) (calls ++ more) (outcome :: r.1, r.2) (calls' ++ more')
      (outcome :: r'.1, r'.2) := by
  refine ⟨?_, ?_, h.lane, fun hops => ?_⟩
  · rw [callsFor_append, callsFor_append, hcalls, h.heard]
  · rw [outcomesFor_cons_of_pos hop, h.outcomes]
  · rcases List.forall_mem_cons.mp hops with ⟨hkind, hops⟩
    rw [htold hkind, h.told hops]

/-- The first run performs an operation more, which is about the other kind. -/
theorem cons_left (h : SameFor kind ops more r more' r') (hop : ¬op.concerns kind = true)
    (hcalls : callsFor kind calls = []) :
    SameFor kind (op :: ops) (calls ++ more) (outcome :: r.1, r.2) more' r' := by
  refine ⟨?_, ?_, h.lane, fun hops => ?_⟩
  · rw [callsFor_append, hcalls, List.nil_append, h.heard]
  · rw [outcomesFor_cons_of_neg hop, h.outcomes]
  · exact absurd (Operation.concerns_of_kind? (List.forall_mem_cons.mp hops).1) hop

end SameFor

/-- A run looks the same for a kind of track as one from a lane that is equal and without
    the operations about the other kind. -/
theorem run_alongside (he : e.Steady) (hsink : sink.Accepts) (ops : List Operation)
    (hconfig : t.config = t'.config) (hlane : t.lanes.get kind = t'.lanes.get kind)
    (h : t.Sound told) (h' : t'.Sound told') (w w' : σ) :
    Alongside (t.run e.onSecond sink.observed ops) w
      (t'.run e.onSecond sink.observed (ops.filter (·.concerns kind))) w'
      fun calls r _ calls' r' _ => SameFor kind ops calls r calls' r' := by
  -- The induction is on the longer run. Whether the other one keeps up is decided operation by
  -- operation.
  induction ops generalizing t t' told told' w w' with
  | nil => exact .pure ⟨rfl, rfl, hlane, fun _ => rfl⟩
  | cons op ops ih =>
      by_cases hop : op.concerns kind = true
      · -- Both runs perform the operation.
        rw [List.filter_cons_of_pos hop]
        refine ((perform_alongside he hsink hop hconfig hlane h h' w w').and_observes
          (perform_observed e sink op h) (perform_observed e sink op h')).bind ?_
        rintro calls ⟨outcome, t₁⟩ v calls' ⟨outcome', t₁'⟩ v'
          ⟨⟨hcalls, rfl, hlane₁, htold⟩, hstep, hstep'⟩
        have hconfig₁ : t₁.config = t₁'.config := by rw [hstep.config, hconfig, hstep'.config]
        refine (ih hconfig₁ hlane₁ hstep.sound hstep'.sound v v').bind ?_
        rintro more ⟨outcomes, t₂⟩ u more' ⟨outcomes', t₂'⟩ u' hmore
        refine .pure ?_
        rw [List.append_nil, List.append_nil]
        exact hmore.cons_both hop hcalls htold
      · -- Only the first run performs it, and the lane stays as it is.
        rw [List.filter_cons_of_neg hop]
        refine .bind_left (perform_elsewhere he hsink hop h) w ?_
        rintro calls ⟨outcome, t₁⟩ v ⟨hstep, hcalls, hlane₁⟩
        rw [← bind_pure (t'.run e.onSecond sink.observed (ops.filter (·.concerns kind)))]
        have hconfig₁ : t₁.config = t'.config := hstep.config.trans hconfig
        refine (ih hconfig₁ (hlane₁.trans hlane) hstep.sound h' v w').bind ?_
        rintro more ⟨outcomes, t₂⟩ u more' ⟨outcomes', t₂'⟩ u' hmore
        refine .pure ?_
        rw [List.append_nil, List.append_nil]
        exact hmore.cons_left hop hcalls

/-- What holds of the observed runs holds of the runs. -/
theorem sameFor_of_alongside {ops ops' : List Operation} {w w' : σ}
    (halike : Alongside (t.run e.onSecond sink.observed ops) w
      (t'.run e.onSecond sink.observed ops') w'
      fun calls r _ calls' r' _ => SameFor kind ops calls r calls' r')
    (h : t.Sound told) (h' : t'.Sound told') :
    SameFor kind ops (t.tells e sink ops w) (t.run e sink ops w).value (t'.tells e sink ops' w')
      (t'.run e sink ops' w').value := by
  rcases halike [] [] with ⟨calls, calls', hcalls, hcalls', hsame⟩
  -- Observing a run does not change what it yields.
  rcases run_observed e sink ops h [] w with ⟨more, heq, -⟩
  rcases run_observed e sink ops' h' [] w' with ⟨more', heq', -⟩
  rw [heq, heq'] at hsame
  rw [tells, tells, hcalls, hcalls']
  exact hsame

/-- A track added to two transcoders brings their lanes together, whatever was at work. -/
theorem run_addTrack_alongside (he : e.Steady) (hsink : sink.Accepts) (track : Track)
    {ops : List Operation} (hops : ∀ op ∈ ops, op.concerns track.trackType = true)
    (hconfig : t.config = t'.config) (h : t.Sound told) (h' : t'.Sound told') (w w' : σ) :
    Alongside (t.run e.onSecond sink.observed (.addTrack track :: ops)) w
      (t'.run e.onSecond sink.observed (.addTrack track :: ops)) w'
      fun calls r _ calls' r' _ =>
        SameFor track.trackType (.addTrack track :: ops) calls r calls' r' := by
  refine ((addTrack_alongside he hsink track hconfig w w').and_observes
    (addTrack_observed e sink track h) (addTrack_observed e sink track h')).bind ?_
  rintro calls ⟨outcome, t₁⟩ v calls' ⟨outcome', t₁'⟩ v'
    ⟨⟨rfl, rfl, -, lane, rfl, rfl⟩, hstep, hstep'⟩
  have hlane : (t.setLane track.trackType lane).lanes.get track.trackType
      = (t'.setLane track.trackType lane).lanes.get track.trackType := by
    rw [get_setLane_self, get_setLane_self]
  have hconfig₁ : (t.setLane track.trackType lane).config
      = (t'.setLane track.trackType lane).config := hconfig
  -- From here on the lanes are equal, and there is nothing to leave out of the rest.
  have hrest := run_alongside he hsink ops hconfig₁ hlane hstep.sound hstep'.sound v v'
  rw [List.filter_eq_self.mpr hops] at hrest
  refine hrest.bind ?_
  rintro more ⟨outcomes, t₂⟩ u more' ⟨outcomes', t₂'⟩ u' hmore
  refine .pure ?_
  rw [List.append_nil, List.append_nil]
  exact hmore.cons_both (decide_eq_true rfl) rfl fun _ => rfl

theorem run_length (e : Engine b σ) (sink : Sink σ) (ops : List Operation) (t : Transcoder b)
    (w : σ) : (t.run e sink ops w).value.1.length = ops.length := by
  induction ops generalizing t w with
  | nil => rfl
  | cons op ops ih => exact congrArg (· + 1) (ih _ _)

/-- The operations about the other kind of track do not show. Take any engine whose answers
    depend on the arguments alone, and any sink that refuses nothing. For one kind of track
    a history looks as if all operations about the other kind were left out, wherever it
    begins. The operations that are left end the same way, and the sink is told of the
    same tracks and frames of that kind. In the end the same chain is at work. So any two
    histories look the same for a kind of track if they agree on what concerns it. -/
theorem run_filter (config : Config) (start : Transcoder b) (hstart : ofConfig config = .ok start)
    (e : Engine b σ) (he : e.Steady) (sink : Sink σ) (hsink : sink.Accepts) (kind : TrackType)
    (ops : List Operation) (w w' : σ) :
    let kept := ops.filter (·.concerns kind)
    let full := start.run e sink ops w
    let rest := start.run e sink kept w'
    outcomesFor kind ops full.value.1 = rest.value.1
      ∧ callsFor kind (start.tells e sink ops w) = callsFor kind (start.tells e sink kept w')
      ∧ full.value.2.lanes.get kind = rest.value.2.lanes.get kind
      ∧ ∀ ops' w'', ops'.filter (·.concerns kind) = kept →
          outcomesFor kind ops' (start.run e sink ops' w'').value.1
              = outcomesFor kind ops full.value.1
            ∧ callsFor kind (start.tells e sink ops' w'')
              = callsFor kind (start.tells e sink ops w) := by
  intro kept full rest
  have hsound := (ofConfig_sound hstart).2
  have hsame (ops : List Operation) (w : σ) :
      let kept := ops.filter (·.concerns kind)
      SameFor kind ops (start.tells e sink ops w) (start.run e sink ops w).value
        (start.tells e sink kept w') (start.run e sink kept w').value :=
    sameFor_of_alongside (run_alongside he hsink ops rfl rfl hsound hsound w w') hsound hsound
  have hfull := hsame ops w
  refine ⟨hfull.outcomes, hfull.heard, hfull.lane, fun ops' w'' hkept => ?_⟩
  -- Two histories with the same rest both look like that rest.
  have hother := hsame ops' w''
  rw [hkept] at hother
  exact ⟨hother.outcomes.trans hfull.outcomes.symm, hother.heard.trans hfull.heard.symm⟩

/-- An H.265 stream and one of sound that no decoder opens for, in turns. The pictures come
    out as if the other stream were not there. -/
theorem run_filter_unheard_sound :
    let start : Transcoder Loopback.backend :=
      { config := .default, usable := rfl, lanes := ⟨none, none⟩ }
    let e := Loopback.engine { decoderDelay := 1, missingDecoders := [.aac] }
    let track := Track.video .h265 640 480 ⟨0⟩
    let ops : List Operation :=
      [.addTrack track, .inputFrame ⟨.h265, 0, 0, [1]⟩, .addTrack (.audio .aac 48000 2),
        .inputFrame ⟨.aac, 0, 0, [2]⟩, .inputFrame ⟨.h265, 40, 40, [3]⟩, .flush]
    outcomesFor .video ops (start.run e .noting ops {}).value.1 = [.ok (), .ok (), .ok (), .ok ()]
      ∧ callsFor .video (start.tells e .noting ops {})
        = [.addTrack (Settings.ofTrack .h264 track).toTrack (.ok ()),
            .inputFrame ⟨.h264, 0, 0, [0, 0, 0, 1, 0x65, 1]⟩ (.ok ()),
            .inputFrame ⟨.h264, 40, 40, [0, 0, 0, 1, 0x41, 3]⟩ (.ok ())] := by
  intro start e track ops
  -- The run without sound is evaluated, and the theorem says that it looks the same.
  rcases run_filter .default start rfl e (Loopback.engine_steady _) .noting
    ⟨fun _ _ => rfl, fun _ _ => rfl⟩ .video ops {} {} with ⟨houtcomes, hcalls, -⟩
  rw [houtcomes, hcalls]
  clear houtcomes hcalls
  revert start e track ops
  cbv

/-- Adding a track is a fresh start. Take any engine whose answers depend on the arguments
    alone, any sink that refuses nothing, and any two histories. If a track is added after
    each of them, and then come the same operations, none of them about the other kind of
    track, nothing shows which history it was. The operations end the same way, the sink is
    told of the same tracks and frames of that kind, and the same chain is left at work.
    Without a flush or the like among them, the sink is told nothing else either. -/
theorem run_addTrack (config : Config) (start : Transcoder b) (hstart : ofConfig config = .ok start)
    (e : Engine b σ) (he : e.Steady) (sink : Sink σ) (hsink : sink.Accepts)
    (before before' : List Operation) (track : Track) (ops : List Operation)
    (hops : ∀ op ∈ ops, op.concerns track.trackType = true) (w w' : σ) :
    let reached := start.run e sink before w
    let reached' := start.run e sink before' w'
    let fresh := Operation.addTrack track :: ops
    let later := reached.value.2.run e sink fresh reached.world
    let later' := reached'.value.2.run e sink fresh reached'.world
    let told := reached.value.2.tells e sink fresh reached.world
    let told' := reached'.value.2.tells e sink fresh reached'.world
    later.value.1 = later'.value.1
      ∧ callsFor track.trackType told = callsFor track.trackType told'
      ∧ later.value.2.lanes.get track.trackType = later'.value.2.lanes.get track.trackType
      ∧ ((∀ op ∈ ops, op.kind? = some track.trackType) → told = told') := by
  intro reached reached' fresh later later' told told'
  rcases ofConfig_sound hstart with ⟨-, hsound⟩
  rcases run_observed e sink before hsound [] w with ⟨calls, -, hconfig, hreached⟩
  rcases run_observed e sink before' hsound [] w' with ⟨calls', -, hconfig', hreached'⟩
  have hruns := run_addTrack_alongside he hsink track hops (hconfig.trans hconfig'.symm) hreached
    hreached' reached.world reached'.world
  have hsame := sameFor_of_alongside hruns hreached hreached'
  have hfresh : ∀ op ∈ fresh, op.concerns track.trackType = true :=
    List.forall_mem_cons.mpr ⟨decide_eq_true rfl, hops⟩
  have houtcomes := hsame.outcomes
  -- All of these operations concern the kind, so none is left out.
  rw [outcomesFor_of_concerns hfresh (run_length ..)] at houtcomes
  exact ⟨houtcomes, hsame.heard, hsame.lane,
    fun hkind => hsame.told (List.forall_mem_cons.mpr ⟨rfl, hkind⟩)⟩

/-- A stream of another codec was at work before, and its chain still holds a frame back.
    Neither shows once the track is added. -/
theorem run_addTrack_to_busy_lane :
    let start : Transcoder Loopback.backend :=
      { config := .default, usable := rfl, lanes := ⟨none, none⟩ }
    let e := Loopback.engine { decoderDelay := 1 }
    let sound : Track := .audio .aac 48000 2
    let before : List Operation :=
      [.addTrack (.audio .opus 48000 2), .inputFrame ⟨.opus, 0, 0, [1]⟩]
    let reached := start.run e .noting before {}
    reached.value.2.tells e .noting [.addTrack sound, .inputFrame ⟨.aac, 0, 0, [2]⟩,
        .inputFrame ⟨.aac, 20, 20, [3]⟩] reached.world
      = [.addTrack (Settings.ofTrack .g711a sound).toTrack (.ok ()),
          .inputFrame ⟨.g711a, 0, 0, [2]⟩ (.ok ())] := by
  intro start e sound before reached
  rcases run_addTrack .default start rfl e (Loopback.engine_steady _) .noting
    ⟨fun _ _ => rfl, fun _ _ => rfl⟩ before [] sound
    [.inputFrame ⟨.aac, 0, 0, [2]⟩, .inputFrame ⟨.aac, 20, 20, [3]⟩] (by decide) {} {} with
    ⟨-, -, -, htold⟩
  -- Without the earlier stream the run is short.
  rw [htold (by decide)]
  clear htold
  revert start e sound before
  cbv

end Transcoder

end Recode
