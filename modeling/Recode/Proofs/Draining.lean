import Recode.Proofs.Alongside
import Recode.Proofs.Announcement
import Recode.Proofs.Staged

/-!
# Draining in front of a sink that refuses

A flush drains both chains of a transcoder, sound first, and each decoder before its
encoder. A fault of the sink ends it at once. So what a sink gets to see of the frames
still held back depends on what it answers, and here it is compared with a sink that
takes everything.

The comparison needs an engine that does not see what the sink does. Engine and sink get
a part of the world each, and the two flushes begin in worlds that have the same part for
the engine.

## Main definitions

* `Act.onFirst`, `Sink.onFirst`: The counterpart of running in the second part of a world.
* `Transcoder.Kinded`: Every chain is for the kind of track of its lane.
* `Transcoder.cleared`: A transcoder with its chains given up.

## Theorems

* `Transcoder.flushLane_accepted`, `Transcoder.flushLane_alongside`: Draining one lane.
* `Transcoder.flush_until_refused`: A sink is told what a sink that takes everything is
  told, up to and including the first frame it refuses.
-/

namespace Recode

/-- Runs an action in the first part of a larger world. -/
def Act.onFirst {σ ρ α : Type} (x : Act ρ α) : Act (ρ × σ) α := fun w =>
  let inner := x w.1
  ⟨inner.value, inner.notes, (inner.world, w.2)⟩

/-- A sink in the first part of a larger world. -/
def Sink.onFirst {σ ρ : Type} (s : Sink ρ) : Sink (ρ × σ) :=
  { addTrack := fun track => (s.addTrack track).onFirst
    inputFrame := fun unit => (s.inputFrame unit).onFirst
    tracksCompleted := s.tracksCompleted.onFirst
    resetTracks := s.resetTracks.onFirst }

/-- Two sinks in the first part of a world leave the second as it is. -/
theorem Sink.onFirst_alongside {σ ρ ρ' : Type} (sink : Sink ρ) (sink' : Sink ρ') :
    sink.onFirst.Alongside (fun (w : ρ × σ) (w' : ρ' × σ) => w.2 = w'.2) sink'.onFirst :=
  fun _ _ _ hw => hw

theorem Sink.Accepts.onFirst {σ ρ : Type} {sink : Sink ρ} (h : sink.Accepts) :
    (sink.onFirst (σ := σ)).Accepts :=
  ⟨fun track w => h.addTrack track w.1, fun unit w => h.inputFrame unit w.1⟩

open Act

variable {b : Backend} {σ τ : Type} {alike : σ → τ → Prop} {e : Engine b σ} {e' : Engine b τ}
  {sink : Sink σ} {sink' : Sink τ}

namespace Transcoder

variable {t t' : Transcoder b} {kind : TrackType}

/-- Every chain at work decodes and encodes tracks of the kind of its lane. -/
def Kinded (t : Transcoder b) : Prop :=
  ∀ kind c, t.lanes.get kind = some c → c.decode.trackType = kind ∧ c.encode.trackType = kind

/-- In a sound transcoder the chains at work are for the kinds of their lanes. -/
theorem Sound.kinded {told : List SinkCall} (h : t.Sound told) : t.Kinded :=
  fun kind c hc => ⟨(h.chains kind c hc).source, (h.chains kind c hc).kind_eq t.usable⟩

/-- A lane that is emptied has no chain that could be of the wrong kind. -/
theorem Kinded.setLane_none (h : t.Kinded) (kind : TrackType) : (t.setLane kind none).Kinded := by
  intro k c hc
  by_cases hk : k = kind
  · rw [hk, get_setLane_self] at hc
    cases hc
  · rw [get_setLane_of_ne _ hk] at hc
    exact h k c hc

/-- A sink that refuses nothing lets the drain of a lane come to its end. -/
theorem flushLane_accepted (e : Engine b σ) (hsink : sink.Accepts) (kind : TrackType)
    (h : t.Kinded) :
    Observes (t.flushLane e.onSecond sink.observed kind) (t.flushLane e sink kind)
      fun calls r => AllTaken kind calls r.1 ∧ r.2 = t.setLane kind none := by
  unfold flushLane
  rcases hc : t.lanes.get kind with _ | c
  · refine Observes.pure ⟨.nil kind, ?_⟩
    rw [← hc, setLane_get]
  · rcases h kind c hc with ⟨hdecodes, hencodes⟩
    refine (c.flush_accepted e hsink (hdecodes.trans hencodes.symm)).bind ?_
    rintro calls outcome htaken
    rw [hencodes] at htaken
    -- Without a refusal there is no fault, so this is the case of a drain that went to its end.
    cases htaken.1
    refine Observes.bind_note _ (Observes.pure ?_)
    rw [List.append_nil]
    exact ⟨htaken, rfl⟩

/-- Draining a lane tells a sink what it tells one that takes everything, up to the first
    frame that is refused. In either case the lane is empty afterwards. -/
theorem flushLane_alongside (he : e.Agree alike e') (hsinks : sink.Alongside alike sink')
    (hsink' : sink'.Accepts) (h : t.Kinded) (hlane : t'.lanes.get kind = t.lanes.get kind)
    {w : σ} {w' : τ} (hw : alike w w') :
    Alongside (t.flushLane e.onSecond sink.observed kind) w
      (t'.flushLane e'.onSecond sink'.observed kind) w'
      fun calls r v calls' r' v' => CutShort kind alike calls r.1 v calls' v'
        ∧ r.2 = t.setLane kind none ∧ r' = (.ok (), t'.setLane kind none) := by
  unfold flushLane
  rw [hlane]
  rcases hc : t.lanes.get kind with _ | c
  · refine .pure ⟨.nil hw, ?_, ?_⟩
    · rw [← hc, setLane_get]
    · rw [← hc, ← hlane, setLane_get]
  · rcases h kind c hc with ⟨hdecodes, hencodes⟩
    refine (c.flush_alongside he hsinks hsink' (hdecodes.trans hencodes.symm) hw).bind ?_
    rintro calls outcome v calls' outcome' v' ⟨rfl, hcut⟩
    rw [hencodes] at hcut
    cases outcome with
    | error fault =>
        -- Only the drain that came to its end is noted.
        refine .note_right _ (.pure ?_)
        rw [List.append_nil, List.append_nil]
        exact ⟨hcut, rfl, rfl⟩
    | ok _ =>
        refine .bind_note _ _ (.pure ?_)
        rw [List.append_nil, List.append_nil]
        exact ⟨hcut, rfl, rfl⟩

/-- A transcoder with its chains given up. -/
def cleared (t : Transcoder b) : Transcoder b := { t with lanes := ⟨none, none⟩ }

/-- A flush tells a sink what it tells one that takes everything, up to the first frame that
    is refused. If that is a sound frame, the pictures are not drained and their chain
    stays at work. -/
theorem flush_alongside (he : e.Agree alike e') (hsinks : sink.Alongside alike sink')
    (hsink' : sink'.Accepts) (h : t.Kinded) {w : σ} {w' : τ} (hw : alike w w') :
    Alongside (t.flush e.onSecond sink.observed) w (t.flush e'.onSecond sink'.observed) w'
      fun calls r _ calls' r' _ => r' = (.ok (), t.cleared) ∧ ∃ units, calls' = taken units
        ∧ (r = (.ok (), t.cleared) ∧ calls = taken units
          ∨ ∃ before unit after fault, units = before ++ unit :: after
            ∧ calls = taken before ++ [.inputFrame unit (.error fault)]
            ∧ r = (.error fault, match unit.trackType with
                | .audio => t.setLane .audio none
                | .video => t.cleared)) := by
  have hvideo := h.setLane_none .audio
  unfold flush
  refine (flushLane_alongside he hsinks hsink' h rfl hw).bind ?_
  rintro calls ⟨outcome, t₁⟩ v calls' ⟨outcome', t₁'⟩ v' ⟨hcut, ht₁, ht₁'⟩
  cases ht₁
  cases ht₁'
  cases outcome with
  | error fault =>
      -- A sound frame is refused, and only the other sink hears of the pictures.
      rcases hcut with ⟨units, unit, rest, hunits, rfl, rfl⟩
      refine .pure_left _ _ (flushLane_accepted e' hsink' .video hvideo) ?_
      rintro more ⟨outcome, t₂⟩ v₁ ⟨⟨hok, pictures, rfl, -⟩, ht₂⟩
      cases hok
      cases ht₂
      refine ⟨rfl, units ++ unit :: rest ++ pictures, (taken_append _ _).symm, .inr ?_⟩
      refine ⟨units, unit, rest ++ pictures, fault, ?_, List.append_nil _, ?_⟩
      · rw [List.append_assoc, List.cons_append]
      · rw [hunits unit (List.mem_append_right _ (List.mem_cons_self ..))]
        rfl
  | ok _ =>
      rcases hcut with ⟨units, hunits, rfl, rfl, hv⟩
      refine (flushLane_alongside he hsinks hsink' hvideo rfl hv).mono ?_
      rintro more ⟨outcome, t₂⟩ u more' ⟨outcome', t₂'⟩ u' ⟨hcut, ht₂, ht₂'⟩
      cases ht₂
      cases ht₂'
      cases outcome with
      | error fault =>
          -- A picture is refused, when the lane of the sound is drained and empty already.
          rcases hcut with ⟨pictures, unit, rest, hpictures, rfl, rfl⟩
          refine ⟨rfl, units ++ (pictures ++ unit :: rest), (taken_append _ _).symm, .inr ?_⟩
          refine ⟨units ++ pictures, unit, rest, fault, (List.append_assoc ..).symm, ?_, ?_⟩
          · rw [taken_append, List.append_assoc]
          · rw [hpictures unit (List.mem_append_right _ (List.mem_cons_self ..))]
            rfl
      | ok _ =>
          rcases hcut with ⟨pictures, hpictures, rfl, rfl, -⟩
          exact ⟨rfl, units ++ pictures, (taken_append _ _).symm, .inl
            ⟨rfl, (taken_append _ _).symm⟩⟩

/-- A flush in front of a sink that may refuse. Take any history of a transcoder, with an
    engine that does not see what the sink does, and compare the flush that follows with
    the same flush in front of a sink that takes everything. The latter ends well, empties
    both lanes and drains some frames in some order. The former ends the same way unless
    one of these frames is refused. Then it ends with the fault of the first refusal, no
    later frame is told to the sink, and if it was a sound frame the chain for pictures
    stays at work. -/
theorem flush_until_refused {ρ ρ' : Type} (config : Config) (start : Transcoder b)
    (hstart : ofConfig config = .ok start) (e : Engine b σ) (sink : Sink ρ) (taking : Sink ρ')
    (htaking : taking.Accepts) (ops : List Operation) (v : ρ) (v' : ρ') (w : σ) :
    let reached := start.run e.onSecond sink.onFirst ops (v, w)
    let t := reached.value.2
    let flushed := t.flush e.onSecond.onSecond sink.onFirst.observed ([], reached.world)
    let drained := t.flush e.onSecond.onSecond taking.onFirst.observed ([], v', reached.world.2)
    flushed.value = (t.flush e.onSecond sink.onFirst reached.world).value
      ∧ drained.value = (.ok (), t.cleared) ∧ ∃ units, drained.world.1 = taken units
      ∧ (flushed.value = (.ok (), t.cleared) ∧ flushed.world.1 = taken units
        ∨ ∃ before unit after fault, units = before ++ unit :: after
          ∧ flushed.world.1 = taken before ++ [.inputFrame unit (.error fault)]
          ∧ flushed.value = (.error fault, match unit.trackType with
              | .audio => t.setLane .audio none
              | .video => t.cleared)) := by
  intro reached t flushed drained
  rcases run_observed e.onSecond sink.onFirst ops (ofConfig_sound hstart).2 [] (v, w) with
    ⟨told, -, -, hsound⟩
  -- Both flushes begin in worlds that the engine sees as one.
  have hworlds : reached.world.2 = (v', reached.world.2).2 := rfl
  rcases flush_alongside e.agree_onSecond (Sink.onFirst_alongside sink taking) htaking.onFirst
    hsound.kinded hworlds [] [] with
    ⟨calls, calls', hcalls, hcalls', hdrained, units, rfl, hflushed⟩
  -- The record is no part of what the flush does, so its value is that of the flush alone.
  rcases flush_observed e.onSecond sink.onFirst hsound [] reached.world with
    ⟨offered, hobserved, -⟩
  refine ⟨?_, hdrained, units, hcalls', ?_⟩
  · exact congrArg Outcome.value hobserved
  · have hrecord : flushed.world.1 = calls := hcalls
    rw [hrecord]
    rcases hflushed with ⟨hvalue, hcalls⟩ | ⟨before, unit, after, fault, hunits, hcalls, hvalue⟩
    · exact .inl ⟨hvalue, hcalls⟩
    · exact .inr ⟨before, unit, after, fault, hunits, hcalls, hvalue⟩

/-- Both lanes hold back two frames, and the sink refuses pictures. All of the sound is
    drained, but only one of the pictures. -/
theorem flush_until_refused_pictures :
    let start : Transcoder Loopback.backend :=
      { config := .default, usable := rfl, lanes := ⟨none, none⟩ }
    let e := Loopback.engine { decoderDelay := 2 }
    let fault : Fault := .sink ⟨"full", []⟩
    let sink : Sink Unit := .taking (fun _ => pure (.ok ())) fun unit =>
      pure (if unit.trackType = .video then .error fault else .ok ())
    let taking : Sink Unit := .taking (fun _ => pure (.ok ())) fun _ => pure (.ok ())
    let ops : List Operation :=
      [.addTrack (.audio .aac 48000 2), .addTrack (.video .h265 640 480 ⟨0⟩),
        .inputFrame ⟨.aac, 0, 0, [1]⟩, .inputFrame ⟨.h265, 0, 0, [2]⟩,
        .inputFrame ⟨.aac, 20, 20, [3]⟩, .inputFrame ⟨.h265, 40, 40, [4]⟩]
    let reached := start.run e.onSecond sink.onFirst ops ((), {})
    let t := reached.value.2
    let flushed := t.flush e.onSecond.onSecond sink.onFirst.observed ([], reached.world)
    let drained := t.flush e.onSecond.onSecond taking.onFirst.observed ([], (), reached.world.2)
    ∃ before unit after, drained.world.1 = taken (before ++ unit :: after)
      ∧ flushed.world.1 = taken before ++ [.inputFrame unit (.error fault)]
      ∧ before.length = 2 ∧ after.length = 1 ∧ flushed.value.2.isTranscoding .video = false := by
  intro start e fault sink taking ops reached t flushed drained
  have hruns : flushed.value.1 = .error fault ∧ flushed.world.1.length = 3
      ∧ drained.world.1.length = 4 ∧ flushed.value.2.isTranscoding .video = false := by
    revert start e fault sink taking ops
    cbv
  rcases hruns with ⟨hend, hflushed, hdrained, hvideo⟩
  -- The run ends with a fault, so it is not the case in which everything is taken.
  rcases flush_until_refused .default start rfl e sink taking ⟨fun _ _ => rfl, fun _ _ => rfl⟩ ops
    () () {} with
    ⟨-, -, units, htaken, ⟨hvalue, -⟩ | ⟨before, unit, after, fault', rfl, hcalls, hvalue⟩⟩
  · cases hend.symm.trans (congrArg Prod.fst hvalue)
  · cases hend.symm.trans (congrArg Prod.fst hvalue)
    have htaken : drained.world.1 = taken (before ++ unit :: after) := htaken
    have hcalls : flushed.world.1 = taken before ++ [.inputFrame unit (.error fault)] := hcalls
    rw [htaken] at hdrained
    rw [hcalls] at hflushed
    simp only [taken, List.length_map, List.length_append, List.length_cons, List.length_nil]
      at hdrained hflushed
    refine ⟨before, unit, after, htaken, hcalls, ?_, ?_, hvideo⟩ <;> omega

/-- The same stream and a sink that refuses sound. The flush ends with the first frame.
    The pictures are never drained, and their chain stays at work. -/
theorem flush_cut_short_by_sound :
    let start : Transcoder Loopback.backend :=
      { config := .default, usable := rfl, lanes := ⟨none, none⟩ }
    let e := Loopback.engine { decoderDelay := 2 }
    let sink : Sink Unit := .taking (fun _ => pure (.ok ())) fun unit =>
      pure (if unit.trackType = .audio then .error (.sink ⟨"full", []⟩) else .ok ())
    let taking : Sink Unit := .taking (fun _ => pure (.ok ())) fun _ => pure (.ok ())
    let ops : List Operation :=
      [.addTrack (.audio .aac 48000 2), .addTrack (.video .h265 640 480 ⟨0⟩),
        .inputFrame ⟨.aac, 0, 0, [1]⟩, .inputFrame ⟨.h265, 0, 0, [2]⟩,
        .inputFrame ⟨.aac, 20, 20, [3]⟩, .inputFrame ⟨.h265, 40, 40, [4]⟩]
    let reached := start.run e.onSecond sink.onFirst ops ((), {})
    let t := reached.value.2
    let flushed := t.flush e.onSecond.onSecond sink.onFirst.observed ([], reached.world)
    let drained := t.flush e.onSecond.onSecond taking.onFirst.observed ([], (), reached.world.2)
    flushed.world.1.length = 1 ∧ drained.world.1.length = 4
      ∧ flushed.value.2.isTranscoding .video = true := by
  cbv

end Transcoder

end Recode
