import Recode.Proofs.Separation
import Recode.Proofs.Table

/-!
# Refused frames

A sink may refuse a frame, and the fault then travels back through the encoder, the
decoder and the transcoder to whoever put the frame in. On its way it meets a picture
that is still to be given back to a pool, a converter that is still to be put back and a
chain that is still to be put into its lane. None of this is left out on account of the
fault. So a transcoder in front of a sink that refuses goes on exactly as it would in
front of one that takes everything.

As in the study of a drain, the engine must not see what the sink does. Each has a part
of the world of its own, and two sinks are compared in front of the same engine. What
the engine is asked shows if its calls are journaled: the journal is then part of its
world. What the sinks are told is compared with the answers left out.

A drain is the one place where a refusal makes a difference, and a history with a flush
in it is therefore no subject of this module.

Of what may go wrong with a frame the caller learns little. `Transcoder.Ends` has three
cases, and the only faults in them are that there is no track for the frame and that the
sink has refused what came of it.

## Main definitions

* `SinkCall.unanswered`: A call with its answer left out.
* `Indifferent`: Two sinks were told the same, and the same is left behind.
* `Transcoder.Misses`: There is no track for a frame.
* `Transcoder.Ends`: How a frame that is put in may end.

## Theorems

* `Transcoder.inputFrame_indifferent`, `Transcoder.addTrack_indifferent`: One operation in
  front of two sinks.
* `Transcoder.run_indifferent`: A history in front of two sinks.
* `Transcoder.run_regardless`: No refusal shows in what the engine is asked or in what the
  sink is told.
-/

namespace Recode

open Act

/-- The call with its answer left out. -/
def SinkCall.unanswered : SinkCall → SinkCall
  | .addTrack track _ => .addTrack track (.ok ())
  | .inputFrame unit _ => .inputFrame unit (.ok ())
  | .tracksCompleted => .tracksCompleted
  | .resetTracks => .resetTracks

/-- Two actions in front of different sinks have told them the same, whatever the answers
    were. They have yielded the same and left the engine's part of the world the same. -/
structure Indifferent {σ ρ ρ' α : Type} (calls : List SinkCall) (a : α) (w : ρ × σ)
    (calls' : List SinkCall) (a' : α) (w' : ρ' × σ) : Prop where
  told : calls.map SinkCall.unanswered = calls'.map SinkCall.unanswered
  value : a = a'
  engine : w.2 = w'.2

/-- The two sinks may have been told the same before. -/
theorem Indifferent.append {σ ρ ρ' α : Type} {calls calls' more more' : List SinkCall} {a a' : α}
    {w : ρ × σ} {w' : ρ' × σ}
    (hcalls : calls.map SinkCall.unanswered = calls'.map SinkCall.unanswered)
    (h : Indifferent more a w more' a' w') :
    Indifferent (calls ++ more) a w (calls' ++ more') a' w' :=
  { h with told := by rw [List.map_append, List.map_append, hcalls, h.told] }

namespace Transcoder

variable {b : Backend} {σ ρ ρ' : Type} {t : Transcoder b} {told told' : List SinkCall}
  {unit : AccessUnit}

/-- The frame is neither in the target codec nor in one that is being transcoded. -/
def Misses (t : Transcoder b) (unit : AccessUnit) : Prop :=
  unit.codec ≠ t.target unit.trackType ∧ t.table.get unit.trackType ≠ some unit.codec

/-- How a frame that is put in may end, and what the sink is told because of it. -/
inductive Ends (t : Transcoder b) (unit : AccessUnit) :
    List SinkCall → Except Fault Unit → Prop where
  /-- There is no track for the frame. -/
  | missed (h : t.Misses unit) : Ends t unit [] (.error (.trackNotReady unit.codec))
  /-- Nothing comes of the frame for now, and that is no fault. -/
  | nothing (h : ¬t.Misses unit) : Ends t unit [] (.ok ())
  /-- A frame is offered to the sink, whose answer it is. -/
  | offered (h : ¬t.Misses unit) (frame : AccessUnit) (answer : Except Fault Unit) :
      Ends t unit [.inputFrame frame answer] answer

namespace Ends

variable {calls : List SinkCall} {outcome : Except Fault Unit}

/-- A chain that had a track for the frame delivers one or nothing. -/
theorem ofDelivered {sink : Sink σ} {unit? : Option AccessUnit} (hready : ¬t.Misses unit)
    (h : Delivered sink unit? calls outcome) : t.Ends unit calls outcome := by
  cases unit? with
  | none =>
      rcases h with ⟨rfl, rfl⟩
      exact .nothing hready
  | some frame =>
      rcases h with ⟨rfl, -⟩
      exact .offered hready frame outcome

theorem length_le (h : t.Ends unit calls outcome) : calls.length ≤ 1 := by
  cases h with
  | missed | nothing => exact Nat.zero_le 1
  | offered => exact Nat.le_refl 1

/-- The sink is told of nothing but frames. -/
theorem frames (h : t.Ends unit calls outcome) :
    ∀ call ∈ calls, ∃ frame answer, call = .inputFrame frame answer := by
  intro call hcall
  cases h with
  | missed | nothing => exact absurd hcall List.not_mem_nil
  | offered hready frame answer => exact ⟨frame, outcome, List.mem_singleton.mp hcall⟩

/-- A fault is the one about a missing track, or the answer to the one frame offered. -/
theorem error_iff (h : t.Ends unit calls outcome) (fault : Fault) :
    outcome = .error fault ↔ t.Misses unit ∧ fault = .trackNotReady unit.codec
      ∨ ∃ frame, calls = [.inputFrame frame (.error fault)] := by
  -- The three endings tell apart which of the two faults it can be.
  cases h with
  | missed hmisses =>
      constructor
      · intro heq
        cases heq
        exact .inl ⟨hmisses, rfl⟩
      · rintro (⟨-, rfl⟩ | ⟨frame, hcalls⟩)
        · rfl
        · cases hcalls
  | nothing hready =>
      constructor
      · intro heq
        cases heq
      · rintro (⟨hmisses, -⟩ | ⟨frame, hcalls⟩)
        · exact absurd hmisses hready
        · cases hcalls
  | offered hready frame answer =>
      constructor
      · intro heq
        exact .inr ⟨frame, by rw [heq]⟩
      · rintro (⟨hmisses, -⟩ | ⟨frame', hcalls⟩)
        · exact absurd hmisses hready
        · cases hcalls
          rfl

end Ends

/-- Putting a frame in ends in one of the three ways, whatever the sink answers. In front of
    two sinks the same frame is offered, or none, and everything else stays the same. -/
theorem inputFrame_indifferent (e : Engine b σ) (sink : Sink ρ) (other : Sink ρ')
    (unit : AccessUnit) (h : t.Kinded) (v : ρ) (v' : ρ') (w : σ) :
    Alongside (t.inputFrame e.onSecond.onSecond sink.onFirst.observed unit) (v, w)
      (t.inputFrame e.onSecond.onSecond other.onFirst.observed unit) (v', w)
      fun calls r u calls' r' u' => t.Ends unit calls r.1
        ∧ Indifferent calls r.2 u calls' r'.2 u' := by
  unfold inputFrame
  by_cases hsame : unit.codec = t.target unit.trackType
  · -- The frame is offered as it is.
    have hready : ¬t.Misses unit := fun hmisses => hmisses.1 hsame
    simp only [if_pos hsame]
    exact .bind_recorded (.pure ⟨.offered hready unit _, rfl, rfl, rfl⟩)
  · simp only [if_neg hsame]
    rcases hc : t.lanes.get unit.trackType with _ | c
    · -- There is no chain at all.
      have hmisses : t.Misses unit := by
        refine ⟨hsame, ?_⟩
        rw [table_get, hc]
        exact Option.some_ne_none _ ∘ Eq.symm
      exact .bind_note _ _ (.pure ⟨.missed hmisses, rfl, rfl, rfl⟩)
    · have hlisted : t.table.get unit.trackType = some c.decode.codec := by
        rw [table_get, hc]
        rfl
      by_cases hdecodes : c.decode.codec = unit.codec
      · -- The chain works before it tells the sink of the result.
        have hready : ¬t.Misses unit := fun hmisses => hmisses.2 (hdecodes ▸ hlisted)
        simp only [if_pos hdecodes]
        refine (c.input_alongside (e.agree_onSecond) (sink.onFirst_alongside other) unit
          (h _ c hc).2.symm rfl).bind ?_
        rintro calls ⟨outcome, c₁⟩ u calls' ⟨outcome', c₁'⟩ u'
          ⟨⟨unit?, -, hd, hd'⟩, hc₁, hu⟩
        have hcalls : calls.map SinkCall.unanswered = calls'.map SinkCall.unanswered := by
          cases unit? with
          | none => rw [hd.1, hd'.1]
          | some frame =>
              rw [hd.1, hd'.1]
              rfl
        cases hc₁
        refine .pure ?_
        rw [List.append_nil, List.append_nil]
        exact ⟨.ofDelivered hready hd, hcalls, rfl, hu⟩
      · -- There is a chain, but for another codec.
        have hmisses : t.Misses unit := by
          refine ⟨hsame, ?_⟩
          rw [hlisted]
          exact fun heq => hdecodes (Option.some.inj heq)
        simp only [if_neg hdecodes]
        exact .bind_note _ _ (.pure ⟨.missed hmisses, rfl, rfl, rfl⟩)

/-- A chain that has opened is put to work before the sink hears of the track, so two sinks
    are told of the same track, or of none, and the same chain is at work afterwards. -/
theorem addTrack_indifferent (e : Engine b σ) (sink : Sink ρ) (other : Sink ρ') (track : Track)
    (t : Transcoder b) (v : ρ) (v' : ρ') (w : σ) :
    Alongside (t.addTrack e.onSecond.onSecond sink.onFirst.observed track) (v, w)
      (t.addTrack e.onSecond.onSecond other.onFirst.observed track) (v', w)
      fun calls r u calls' r' u' => Indifferent calls r.2 u calls' r'.2 u' := by
  unfold addTrack
  by_cases hsame : track.codec = t.target track.trackType
  · simp only [if_pos hsame]
    exact .bind_note _ _ (.bind_recorded (.pure ⟨rfl, rfl, rfl⟩))
  · simp only [if_neg hsame, Chain.build_onSecond e.onSecond]
    refine Alongside.bind_silent (Chain.build_agree e.agree_onSecond track _ _) rfl
      fun u u' hu => ?_
    -- Both have opened the same chain, or failed with the same fault.
    rcases (Chain.build e.onSecond track _ _ (v, w)).value with fault | chain
    · exact .pure ⟨rfl, rfl, hu⟩
    · exact .bind_note _ _ (.bind_recorded (.pure ⟨rfl, rfl, hu⟩))

/-- Nothing but a flush depends on what the sink answers. -/
theorem perform_indifferent (e : Engine b σ) (sink : Sink ρ) (other : Sink ρ') {op : Operation}
    (hop : op ≠ .flush) (h : t.Kinded) (v : ρ) (v' : ρ') (w : σ) :
    Alongside (t.perform e.onSecond.onSecond sink.onFirst.observed op) (v, w)
      (t.perform e.onSecond.onSecond other.onFirst.observed op) (v', w)
      fun calls r u calls' r' u' => Indifferent calls r.2 u calls' r'.2 u' := by
  -- Only a flush looks at the answer of the sink before it goes on.
  cases op with
  | addTrack track => exact addTrack_indifferent e sink other track t v v' w
  | inputFrame unit =>
      refine (inputFrame_indifferent e sink other unit h v v' w).mono ?_
      rintro calls r u calls' r' u' ⟨-, hboth⟩
      exact hboth
  | tracksCompleted =>
      simp only [perform, tracksCompleted, Sink.observed]
      exact .bind_recorded (.pure ⟨rfl, rfl, rfl⟩)
  | resetTracks =>
      simp only [perform, resetTracks, Sink.observed, bind_assoc, pure_bind]
      exact .bind_recorded (.pure ⟨rfl, rfl, rfl⟩)
  | flush => exact absurd rfl hop

/-- So neither does a history without a flush. -/
theorem run_indifferent (e : Engine b σ) (sink : Sink ρ) (other : Sink ρ') (ops : List Operation)
    (hops : .flush ∉ ops) (h : t.Sound told) (v : ρ) (v' : ρ') (w : σ) :
    Alongside (t.run e.onSecond.onSecond sink.onFirst.observed ops) (v, w)
      (t.run e.onSecond.onSecond other.onFirst.observed ops) (v', w)
      fun calls r u calls' r' u' => Indifferent calls r.2 u calls' r'.2 u' := by
  induction ops generalizing t told v v' w with
  | nil => exact .pure ⟨rfl, rfl, rfl⟩
  | cons op ops ih =>
      have hop : op ≠ .flush := fun heq => hops (heq ▸ List.mem_cons_self ..)
      have hrest : .flush ∉ ops := fun hmem => hops (List.mem_cons_of_mem op hmem)
      -- The first run keeps the transcoder sound, and both runs go on with the same one.
      have hstep := (perform_indifferent e sink other hop h.kinded v v' w).and_observes
        (perform_observed e.onSecond sink.onFirst op h)
        (perform_observed e.onSecond other.onFirst op h)
      refine hstep.bind ?_
      rintro calls ⟨outcome, t₁⟩ ⟨u, w₁⟩ calls' ⟨outcome', t₁'⟩ ⟨u', w₁'⟩
        ⟨⟨hcalls, ht₁, hw₁⟩, hsound, -⟩
      -- From here on only the answers of the sinks and what they keep to themselves differ.
      cases ht₁
      cases hw₁
      refine (ih hrest hsound.sound u u' w₁).bind ?_
      rintro more ⟨outcomes, t₂⟩ z more' ⟨outcomes', t₂'⟩ z' hmore
      refine .pure ?_
      rw [List.append_nil, List.append_nil]
      exact Indifferent.append hcalls ⟨hmore.told, hmore.value, hmore.engine⟩

/-- Refused frames make no difference to transcoding. Take any engine that does not see what
    the sink does, with its calls written to a journal, and any two sinks, one of which may
    take everything while the other refuses whatever it likes. A history without a flush
    does the same in front of both: the engine is asked the same and left in the same state,
    the sinks are told of the same tracks and frames, and the same chains are at work. Put
    in a frame after that. The sink is told of at most one frame because of it, and the only
    faults are that there is no track for the frame and that the sink has refused what it
    was told of. So a failure to decode, to convert or to encode is none. -/
theorem run_regardless (config : Config) (start : Transcoder b.numbered)
    (hstart : ofConfig config = .ok start) (e : Engine b σ) (sink : Sink ρ) (other : Sink ρ')
    (ops : List Operation) (hops : .flush ∉ ops) (v : ρ) (v' : ρ') (w : σ) :
    let here := start.run e.journaled.onSecond sink.onFirst ops (v, [], w)
    let there := start.run e.journaled.onSecond other.onFirst ops (v', [], w)
    let told := start.tells e.journaled.onSecond sink.onFirst ops (v, [], w)
    let told' := start.tells e.journaled.onSecond other.onFirst ops (v', [], w)
    here.world.2 = there.world.2 ∧ here.value.2 = there.value.2
      ∧ told.map SinkCall.unanswered = told'.map SinkCall.unanswered
      ∧ ∀ unit,
        let t := here.value.2
        let next := t.inputFrame e.journaled.onSecond sink.onFirst unit here.world
        let offered := t.tells e.journaled.onSecond sink.onFirst [.inputFrame unit] here.world
        offered.length ≤ 1
          ∧ (∀ call ∈ offered, ∃ frame answer, call = .inputFrame frame answer)
          ∧ ∀ fault, next.value.1 = .error fault
            ↔ t.Misses unit ∧ fault = .trackNotReady unit.codec
              ∨ ∃ frame, offered = [.inputFrame frame (.error fault)] := by
  intro here there told told'
  have hsound := (ofConfig_sound hstart).2
  -- Observing a run does not change what it yields.
  rcases run_observed e.journaled.onSecond sink.onFirst ops hsound [] (v, [], w) with
    ⟨calls, hhere, -, hreached⟩
  rcases run_observed e.journaled.onSecond other.onFirst ops hsound [] (v', [], w) with
    ⟨calls', hthere, -⟩
  rcases run_indifferent e.journaled sink other ops hops hsound v v' ([], w) [] [] with
    ⟨more, more', hmore, hmore', hsame, hvalue, hworld⟩
  rw [hhere, hthere] at hvalue hworld
  refine ⟨hworld, hvalue, ?_, fun unit => ?_⟩
  · have htold : told = more := hmore
    have htold' : told' = more' := hmore'
    rw [htold, htold']
    exact hsame
  · intro t next offered
    -- The frame is compared with itself, since its end is a matter of one sink.
    rcases inputFrame_indifferent e.journaled sink sink unit hreached.kinded here.world.1
      here.world.1 here.world.2 [] [] with ⟨entries, -, hentries, -, hends, -⟩
    rcases inputFrame_observed e.journaled.onSecond sink.onFirst unit hreached [] here.world with
      ⟨calls, hnext, -⟩
    rw [hnext] at hends
    have hoffered : offered = entries := hentries
    have hends : t.Ends unit offered next.value.1 := hoffered ▸ hends
    exact ⟨hends.length_le, hends.frames, hends.error_iff⟩

/-- A stream of pictures whose decoder keeps one frame back, one of its frames damaged, and a
    sink that refuses all pictures but the first. It is told of every frame that a sink
    would be told of that takes everything, and the next frame ends with its fault. -/
theorem run_regardless_of_full_sink :
    let start : Transcoder Loopback.backend.numbered :=
      { config := .default, usable := rfl, lanes := ⟨none, none⟩ }
    let e := Loopback.engine { decoderDelay := 1 }
    let track := Track.video .h265 640 480 ⟨0⟩
    let fault : Fault := .sink ⟨"full", []⟩
    let sink : Sink Unit := .taking (fun _ => pure (.ok ())) fun unit =>
      pure (if unit.pts = 0 then .ok () else .error fault)
    let ops : List Operation :=
      [.addTrack track, .inputFrame ⟨.h265, 0, 0, [1]⟩, .inputFrame ⟨.h265, 40, 40, [2]⟩,
        .inputFrame ⟨.h265, 80, 80, Loopback.corrupt⟩, .inputFrame ⟨.h265, 120, 120, [3]⟩]
    let here := start.run e.journaled.onSecond sink.onFirst ops ((), [], {})
    let there := start.run e.journaled.onSecond Sink.noting.onFirst ops ((), [], {})
    let next := here.value.2.inputFrame e.journaled.onSecond sink.onFirst ⟨.h265, 160, 160, [4]⟩
      here.world
    here.world.2.1 = there.world.2.1 ∧ next.value.1 = .error fault
      ∧ (start.tells e.journaled.onSecond sink.onFirst ops ((), [], {})).map SinkCall.unanswered
        = [.addTrack (Settings.ofTrack .h264 track).toTrack (.ok ()),
            .inputFrame ⟨.h264, 0, 0, [0, 0, 0, 1, 0x65, 1]⟩ (.ok ()),
            .inputFrame ⟨.h264, 40, 40, [0, 0, 0, 1, 0x41, 2]⟩ (.ok ())] := by
  intro start e track fault sink ops here there next
  have htaken : start.tells e.journaled.onSecond Sink.noting.onFirst ops ((), [], {})
      = [.addTrack (Settings.ofTrack .h264 track).toTrack (.ok ()),
          .inputFrame ⟨.h264, 0, 0, [0, 0, 0, 1, 0x65, 1]⟩ (.ok ()),
          .inputFrame ⟨.h264, 40, 40, [0, 0, 0, 1, 0x41, 2]⟩ (.ok ())] := by
    revert start e track fault sink ops
    cbv
  have hpicture : here.value.2.tells e.journaled.onSecond sink.onFirst
      [.inputFrame ⟨.h265, 160, 160, [4]⟩] here.world
      = [.inputFrame ⟨.h264, 120, 120, [0, 0, 0, 1, 0x41, 3]⟩ (.error fault)] := by
    clear htaken
    revert start e track fault sink ops
    cbv
  rcases run_regardless .default start rfl e sink .noting ops (by decide) () () {} with
    ⟨hworld, -, htold, hnext⟩
  rw [htaken] at htold
  refine ⟨congrArg Prod.fst hworld, ?_, htold⟩
  -- The frame that the decoder has kept back is offered, and refused.
  simp only [here] at hpicture
  simp only [next, here]
  exact ((hnext _).2.2 fault).mpr (.inr ⟨_, hpicture⟩)

end Transcoder

end Recode
