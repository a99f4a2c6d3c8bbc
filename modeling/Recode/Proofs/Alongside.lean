import Recode.Proofs.Agreement
import Recode.Proofs.Relay
import Recode.Proofs.Simulation

/-!
# Two sinks side by side

Two pipelines do the same work in front of two sinks. Each sink keeps a record of what
it is told, and the question is how the two records compare.

As long as single frames are put in, it makes no difference what the sinks answer. A
chain does its work before it tells the sink of the result, and has nothing left to do
but to pass the answer on. So the sinks are told of the same frame, or of none, and
the chains stay the same even where one sink refuses what the other takes
(`Chain.input_alongside`).

Draining is different, because it ends with the first frame that is refused. A sink
that refuses is told what a sink that takes everything would have been told, up to and
including that frame, and nothing of what comes after it (`Chain.flush_alongside`).

## Main definitions

* `Act.Alongside`: What two actions, each with a record, have done.
* `Sink.Alongside`: Sinks that leave worlds alike that were alike.
* `BothDelivered`: Two sinks are told of the same frame, or of none.
* `AllTaken`: A sink has taken every frame it was told of.
* `CutShort`: One sink is told what the other is told, up to a refusal.

## Theorems

* `Act.Alongside.bind`: Actions in a row.
* `Chain.flush_accepted`: A sink that refuses nothing lets a drain come to its end.
* `Chain.input_alongside`, `Chain.flush_alongside`: What a chain tells two sinks.
-/

namespace Recode

namespace Act

variable {σ τ α β γ δ κ : Type}

/-- The actions `x` and `y`, begun in worlds that have records beside them, add entries to
    their records. The entries, the values and the worlds left behind satisfy `after`. -/
def Alongside (x : Act (List κ × σ) α) (w : σ) (y : Act (List κ × τ) β) (w' : τ)
    (after : List κ → α → σ → List κ → β → τ → Prop) : Prop :=
  ∀ record record', ∃ entries entries',
    (x (record, w)).world.1 = record ++ entries
      ∧ (y (record', w')).world.1 = record' ++ entries'
      ∧ after entries (x (record, w)).value (x (record, w)).world.2
          entries' (y (record', w')).value (y (record', w')).world.2

namespace Alongside

variable {x : Act (List κ × σ) α} {w : σ} {y : Act (List κ × τ) β} {w' : τ}
  {after : List κ → α → σ → List κ → β → τ → Prop}
  {f : α → Act (List κ × σ) γ} {g : β → Act (List κ × τ) δ}
  {last : List κ → γ → σ → List κ → δ → τ → Prop}

theorem mono {after' : List κ → α → σ → List κ → β → τ → Prop} (h : Alongside x w y w' after)
    (hafter : ∀ entries a v entries' a' v', after entries a v entries' a' v' →
      after' entries a v entries' a' v') : Alongside x w y w' after' := by
  intro record record'
  rcases h record record' with ⟨entries, entries', hrecord, hrecord', h⟩
  exact ⟨entries, entries', hrecord, hrecord', hafter _ _ _ _ _ _ h⟩

theorem pure {a : α} {a' : β} (h : after [] a w [] a' w') :
    Alongside (Pure.pure a) w (Pure.pure a') w' after :=
  fun record record' => ⟨[], [], (List.append_nil record).symm, (List.append_nil record').symm, h⟩

/-- Two sequences side by side. What the first actions have left behind is where the second
    begin. -/
theorem bind (hx : Alongside x w y w' after)
    (hf : ∀ entries a v entries' a' v', after entries a v entries' a' v' →
      Alongside (f a) v (g a') v' fun more c u more' c' u' =>
        last (entries ++ more) c u (entries' ++ more') c' u') :
    Alongside (x >>= f) w (y >>= g) w' last := by
  intro record record'
  rcases hx record record' with ⟨entries, entries', hrecord, hrecord', h⟩
  -- Each second action finds the entries of the first at the end of its record.
  rcases hf _ _ _ _ _ _ h (record ++ entries) (record' ++ entries') with
    ⟨more, more', hmore, hmore', hlast⟩
  have hworld : (x (record, w)).world = (record ++ entries, (x (record, w)).world.2) :=
    Prod.ext hrecord rfl
  have hworld' : (y (record', w')).world = (record' ++ entries', (y (record', w')).world.2) :=
    Prod.ext hrecord' rfl
  refine ⟨entries ++ more, entries' ++ more', ?_⟩
  simp only [bind_value, bind_world, ← List.append_assoc]
  rw [hworld, hworld']
  exact ⟨hmore, hmore', hlast⟩

/-- Actions in the old worlds alone make no entries. -/
theorem bind_silent {alike : σ → τ → Prop} {x : Act σ α} {y : Act τ α}
    {g : α → Act (List κ × τ) δ} (hx : Agree alike x y) (hw : alike w w')
    (hf : ∀ v v', alike v v' → Alongside (f (x w).value) v (g (x w).value) v' last) :
    Alongside (x.onSecond >>= f) w (y.onSecond >>= g) w' last := by
  rcases hx w w' hw with ⟨hvalue, hworld⟩
  -- The values are the same, so both go on with the first.
  intro record record'
  have h := hf _ _ hworld record record'
  simp only [bind_value, bind_world, onSecond, ← hvalue]
  exact h

theorem bind_note (n n' : Note) {f : Unit → Act (List κ × σ) γ} {g : Unit → Act (List κ × τ) δ}
    (hf : Alongside (f ()) w (g ()) w' last) :
    Alongside (Act.note n >>= f) w (Act.note n' >>= g) w' last :=
  fun record record' => hf record record'

/-- A note that only the second action takes. -/
theorem note_right (n : Note) {g : Unit → Act (List κ × τ) β} (h : Alongside x w (g ()) w' after) :
    Alongside x w (Act.note n >>= g) w' after :=
  fun record record' => h record record'

/-- Both actions make one entry each and go on. -/
theorem bind_recorded {x : Act σ α} {y : Act τ β} {entry : α → κ} {entry' : β → κ}
    (hf : Alongside (f (x w).value) (x w).world (g (y w').value) (y w').world
      fun more c u more' c' u' =>
        last (entry (x w).value :: more) c u (entry' (y w').value :: more') c' u') :
    Alongside (x.recorded entry >>= f) w (y.recorded entry' >>= g) w' last := by
  intro record record'
  rcases hf (record ++ [entry (x w).value]) (record' ++ [entry' (y w').value]) with
    ⟨more, more', hmore, hmore', hlast⟩
  refine ⟨entry (x w).value :: more, entry' (y w').value :: more', ?_, ?_, hlast⟩
  · rw [List.append_assoc] at hmore
    exact hmore
  · rw [List.append_assoc] at hmore'
    exact hmore'

/-- What two actions do on their own. -/
theorem of_observes {x₀ : Act σ α} {y₀ : Act τ β} {p : List κ → α → Prop} {q : List κ → β → Prop}
    (hx : Observes x x₀ p) (hy : Observes y y₀ q) (w : σ) (w' : τ) :
    Alongside x w y w' fun entries a _ entries' a' _ => p entries a ∧ q entries' a' := by
  intro record record'
  rcases hx record w with ⟨entries, heq, hp⟩
  rcases hy record' w' with ⟨entries', heq', hq⟩
  refine ⟨entries, entries', ?_, ?_, ?_⟩
  · rw [heq]
  · rw [heq']
  · rw [heq, heq']
    exact ⟨hp, hq⟩

/-- What two actions do together and what each of them does on its own. -/
theorem and_observes {x₀ : Act σ α} {y₀ : Act τ β} {p : List κ → α → Prop}
    {q : List κ → β → Prop} (h : Alongside x w y w' after) (hx : Observes x x₀ p)
    (hy : Observes y y₀ q) :
    Alongside x w y w' fun entries a v entries' a' v' =>
      after entries a v entries' a' v' ∧ p entries a ∧ q entries' a' := by
  intro record record'
  rcases h record record' with ⟨entries, entries', hrecord, hrecord', hafter⟩
  rcases of_observes hx hy w w' record record' with ⟨more, more', hmore, hmore', hboth⟩
  -- What is added to a record is determined by the record before and the record after.
  cases List.append_cancel_left (hrecord.symm.trans hmore)
  cases List.append_cancel_left (hrecord'.symm.trans hmore')
  exact ⟨entries, entries', hrecord, hrecord', hafter, hboth⟩

/-- Only the second action does something. -/
theorem pure_left {y₀ : Act τ β} {q : List κ → β → Prop} (a : α) (w : σ) (hy : Observes y y₀ q)
    (h : ∀ entries' a' v', q entries' a' → after [] a w entries' a' v') :
    Alongside (Pure.pure a) w y w' after := by
  intro record record'
  rcases hy record' w' with ⟨entries', heq, hq⟩
  refine ⟨[], entries', (List.append_nil record).symm, ?_, ?_⟩
  · rw [heq]
  · rw [heq]
    exact h _ _ _ hq

/-- Only the first action does something before it goes on. -/
theorem bind_left {x₀ : Act σ α} {p : List κ → α → Prop}
    {last : List κ → γ → σ → List κ → β → τ → Prop} (hx : Observes x x₀ p) (w : σ)
    (hf : ∀ entries a v, p entries a → Alongside (f a) v y w' fun more c u entries' a' u' =>
      last (entries ++ more) c u entries' a' u') :
    Alongside (x >>= f) w y w' last := by
  intro record record'
  rcases hx record w with ⟨entries, heq, hp⟩
  rcases hf entries _ (x₀ w).world hp (record ++ entries) record' with
    ⟨more, more', hmore, hmore', hlast⟩
  refine ⟨entries ++ more, more', ?_⟩
  simp only [bind_value, bind_world, heq, ← List.append_assoc]
  exact ⟨hmore, hmore', hlast⟩

end Alongside

/-- What an action does beside itself is what it does on its own. -/
theorem Observes.of_alongside {x : Act (List κ × σ) α} {x₀ : Act σ α} {p q : List κ → α → Prop}
    (hx : Observes x x₀ p)
    (h : ∀ w, Alongside x w x w fun entries a _ _ _ _ => q entries a) :
    Observes x x₀ fun entries a => p entries a ∧ q entries a := by
  intro record w
  rcases hx record w with ⟨entries, heq, hp⟩
  rcases h w record record with ⟨more, -, hmore, -, hq⟩
  -- Both speak of the same entries, since they end the same record.
  rw [heq] at hmore hq
  cases List.append_cancel_left hmore
  exact ⟨entries, heq, hp, hq⟩

end Act

open Act

variable {b : Backend} {σ τ : Type} {alike : σ → τ → Prop} {e : Engine b σ} {e' : Engine b τ}
  {sink : Sink σ} {sink' : Sink τ}

/-- Taking a frame, both sinks leave worlds alike that were alike, whatever they answer. -/
def Sink.Alongside (alike : σ → τ → Prop) (sink : Sink σ) (sink' : Sink τ) : Prop :=
  ∀ unit w w', alike w w' →
    alike (sink.inputFrame unit w).world (sink'.inputFrame unit w').world

/-- Whatever a sink does, it leaves worlds that nothing tells apart. -/
theorem Sink.alongside_self (sink : Sink σ) : sink.Alongside (fun _ _ => True) sink :=
  fun _ _ _ _ => trivial

/-- Both sinks are told of the same frame, which is of the given kind, or of none. -/
def BothDelivered (kind : TrackType) (sink : Sink σ) (sink' : Sink τ) (calls : List SinkCall)
    (outcome : Except Fault Unit) (calls' : List SinkCall) (outcome' : Except Fault Unit) : Prop :=
  ∃ unit?, (∀ unit ∈ unit?, unit.trackType = kind) ∧ Delivered sink unit? calls outcome
    ∧ Delivered sink' unit? calls' outcome'

theorem BothDelivered.nothing (kind : TrackType) (sink : Sink σ) (sink' : Sink τ) :
    BothDelivered kind sink sink' [] (.ok ()) [] (.ok ()) :=
  ⟨none, fun _ hunit => (nomatch hunit), ⟨rfl, rfl⟩, ⟨rfl, rfl⟩⟩

/-- The calls pass on frames of one kind, and the sink has taken all of them. -/
def AllTaken (kind : TrackType) (calls : List SinkCall) (outcome : Except Fault Unit) : Prop :=
  outcome = .ok () ∧ ∃ units, calls = taken units ∧ ∀ unit ∈ units, unit.trackType = kind

namespace AllTaken

variable {kind : TrackType} {calls more : List SinkCall} {outcome outcome' : Except Fault Unit}

theorem nil (kind : TrackType) : AllTaken kind [] (.ok ()) :=
  ⟨rfl, [], rfl, fun _ hmem => absurd hmem List.not_mem_nil⟩

theorem append (h : AllTaken kind calls outcome) (h' : AllTaken kind more outcome') :
    AllTaken kind (calls ++ more) outcome' := by
  rcases h with ⟨-, units, rfl, hunits⟩
  rcases h' with ⟨hok, units', rfl, hunits'⟩
  exact ⟨hok, units ++ units', (taken_append units units').symm,
    List.forall_mem_append.mpr ⟨hunits, hunits'⟩⟩

theorem ofDelivered (hsink : sink.Accepts) {unit? : Option AccessUnit}
    (hunit : ∀ unit ∈ unit?, unit.trackType = kind) (h : Delivered sink unit? calls outcome) :
    AllTaken kind calls outcome := by
  rcases h.taken hsink with ⟨rfl, rfl⟩
  exact ⟨rfl, unit?.toList, rfl, fun unit hmem => hunit unit (Option.mem_toList.mp hmem)⟩

end AllTaken

/-- What a drain tells a sink, and what it tells one that takes everything, both of frames
    of one kind. If it comes to its end it tells both the same. Otherwise it ends with the
    frame that was refused, and the other sink is told more. -/
def CutShort (kind : TrackType) (alike : σ → τ → Prop) (calls : List SinkCall)
    (outcome : Except Fault Unit) (w : σ) (calls' : List SinkCall) (w' : τ) : Prop :=
  match outcome with
  | .ok _ => ∃ units, (∀ unit ∈ units, unit.trackType = kind)
      ∧ calls = taken units ∧ calls' = taken units ∧ alike w w'
  | .error fault => ∃ units unit rest, (∀ u ∈ units ++ unit :: rest, u.trackType = kind)
      ∧ calls = taken units ++ [.inputFrame unit (.error fault)]
      ∧ calls' = taken (units ++ unit :: rest)

namespace CutShort

variable {kind : TrackType} {calls calls' more more' : List SinkCall}
  {outcome : Except Fault Unit} {fault : Fault} {v w : σ} {v' w' : τ}

theorem nil (hw : alike w w') : CutShort kind alike [] (.ok ()) w [] w' :=
  ⟨[], fun _ hmem => absurd hmem List.not_mem_nil, rfl, rfl, hw⟩

/-- Both sinks may have taken one more frame before. -/
theorem cons {unit : AccessUnit} (hunit : unit.trackType = kind)
    (h : CutShort kind alike calls outcome w calls' w') :
    CutShort kind alike (.inputFrame unit (.ok ()) :: calls) outcome w
      (.inputFrame unit (.ok ()) :: calls') w' := by
  cases outcome with
  | ok _ =>
      rcases h with ⟨units, hunits, rfl, rfl, hw⟩
      exact ⟨unit :: units, List.forall_mem_cons.mpr ⟨hunit, hunits⟩, rfl, rfl, hw⟩
  | error fault =>
      rcases h with ⟨units, unit', rest, hunits, rfl, rfl⟩
      exact ⟨unit :: units, unit', rest, List.forall_mem_cons.mpr ⟨hunit, hunits⟩, rfl, rfl⟩

/-- What comes after a drain that went to its end is cut short where it is itself. -/
theorem append (hcalls : CutShort kind alike calls (.ok ()) v calls' v')
    (h : CutShort kind alike more outcome w more' w') :
    CutShort kind alike (calls ++ more) outcome w (calls' ++ more') w' := by
  rcases hcalls with ⟨units, hunits, rfl, rfl, -⟩
  -- The frames taken before go in front one by one.
  induction units with
  | nil => exact h
  | cons unit units ih =>
      rcases List.forall_mem_cons.mp hunits with ⟨hunit, hunits⟩
      exact (ih hunits).cons hunit

/-- After the refusal only the other sink is told more. -/
theorem extend (h : CutShort kind alike calls (.error fault) v calls' v') (w : σ) (w' : τ)
    (hmore : AllTaken kind more outcome) :
    CutShort kind alike calls (.error fault) w (calls' ++ more) w' := by
  rcases h with ⟨units', unit, rest, hunits', rfl, rfl⟩
  rcases hmore with ⟨-, units, rfl, hunits⟩
  refine ⟨units', unit, rest ++ units, ?_, rfl, ?_⟩
  · rw [← List.cons_append, ← List.append_assoc]
    exact List.forall_mem_append.mpr ⟨hunits', hunits⟩
  · rw [← List.cons_append, ← List.append_assoc, taken_append _ units]

/-- The first frame offered may be refused. -/
theorem ofDelivered (hsink' : sink'.Accepts) {outcome' : Except Fault Unit} (hw : alike w w')
    (h : BothDelivered kind sink sink' calls outcome calls' outcome') :
    outcome' = .ok () ∧ CutShort kind alike calls outcome w calls' w' := by
  rcases h with ⟨unit?, hunit, hdelivered, hdelivered'⟩
  rcases hdelivered'.taken hsink' with ⟨rfl, rfl⟩
  refine ⟨rfl, ?_⟩
  cases unit? with
  | none =>
      rcases hdelivered with ⟨rfl, rfl⟩
      exact nil hw
  | some unit =>
      rcases hdelivered with ⟨rfl, -⟩
      have hkind : ∀ u ∈ [unit], u.trackType = kind :=
        fun u hmem => List.mem_singleton.mp hmem ▸ hunit unit rfl
      -- Taken, it is one more frame for both. Refused, it is the last that the first sink is
      -- told of.
      cases outcome with
      | ok _ => exact ⟨[unit], hkind, rfl, rfl, hw⟩
      | error fault => exact ⟨[], unit, [], hkind, rfl, rfl⟩

end CutShort

namespace EncodeStage

/-- Encoding one picture tells both sinks of the same packet, if there is one. -/
theorem encode_alongside (he : e.Agree alike e') (hsinks : sink.Alongside alike sink')
    (picture : Picture b.Store) (s : EncodeStage b) {w : σ} {w' : τ} (hw : alike w w') :
    Alongside (encode e.onSecond sink.observed.inputFrame picture s) w
      (encode e'.onSecond sink'.observed.inputFrame picture s) w'
      fun calls r v calls' r' v' =>
        BothDelivered s.trackType sink sink' calls r.1 calls' r'.1 ∧ r.2 = r'.2
          ∧ r.2.settings = s.settings ∧ alike v v' := by
  unfold encode
  refine Alongside.bind_silent (he.encode s.context picture) hw fun v v' hv => ?_
  -- The encoder fails, keeps the picture back or yields a packet.
  rcases (e.encode s.context picture w).value with ⟨cause | _ | packet, context⟩
  · exact .bind_note _ _ (.pure ⟨.nothing .., rfl, rfl, hv⟩)
  · exact .pure ⟨.nothing .., rfl, rfl, hv⟩
  · refine Alongside.bind_recorded (.pure ⟨?_, rfl, rfl, hsinks _ v v' hv⟩)
    refine ⟨some _, ?_, ⟨rfl, v, rfl⟩, ⟨rfl, v', rfl⟩⟩
    rintro unit ⟨⟩
    rfl

/-- Encoding a frame tells both sinks of what comes out, and leaves the same stage. -/
theorem input_alongside (he : e.Agree alike e') (hsinks : sink.Alongside alike sink')
    (frame : RawFrame b.Store) (s : EncodeStage b) (hkind : frame.trackType = s.trackType)
    {w : σ} {w' : τ} (hw : alike w w') :
    Alongside (s.input e.onSecond sink.observed.inputFrame frame) w
      (s.input e'.onSecond sink'.observed.inputFrame frame) w'
      fun calls r v calls' r' v' =>
        BothDelivered s.trackType sink sink' calls r.1 calls' r'.1 ∧ r.2 = r'.2
          ∧ r.2.settings = s.settings ∧ alike v v' := by
  rw [input_eq _ _ _ _ hkind, input_eq _ _ _ _ hkind, bring_onSecond, bring_onSecond]
  refine Alongside.bind_silent (bring_agree he frame s) hw fun v v' hv => ?_
  -- Either no picture reaches the encoder, or the same one does in both stages.
  rcases s.bring_value e frame w with ⟨converter, hconverter⟩
  rcases hbrought : (s.bring e frame w).value with ⟨_ | picture, brought⟩
  · rw [hbrought] at hconverter
    cases hconverter
    exact .pure ⟨.nothing .., rfl, rfl, hv⟩
  · rw [hbrought] at hconverter
    cases hconverter
    exact encode_alongside he hsinks picture { s with converter } hv

/-- A sink that refuses nothing takes what comes of a frame. -/
theorem input_accepted (e : Engine b σ) (hsink : sink.Accepts) (frame : RawFrame b.Store)
    (s : EncodeStage b) (hkind : frame.trackType = s.trackType) :
    Observes (s.input e.onSecond sink.observed.inputFrame frame) (s.input e sink.inputFrame frame)
      fun calls r => AllTaken s.trackType calls r.1 ∧ r.2.settings = s.settings := by
  refine (input_observed e sink frame s hkind).mono ?_
  rintro calls ⟨outcome, s'⟩ ⟨w, hr⟩
  rcases s.bring_value e frame w with ⟨converter, hconverter⟩
  -- A frame that gets lost on its way to the encoder leaves nothing to be taken.
  rcases hbrought : (s.bring e frame w).value with ⟨_ | picture, brought⟩
  · rw [hbrought] at hr hconverter
    rcases hr with ⟨rfl, rfl, rfl⟩
    cases hconverter
    exact ⟨.nil _, rfl⟩
  · rw [hbrought] at hr hconverter
    rcases hr with ⟨w', rfl, hdelivered⟩
    cases hconverter
    refine ⟨.ofDelivered hsink ?_ hdelivered, rfl⟩
    intro unit hunit
    rcases Option.map_eq_some_iff.mp hunit with ⟨packet, -, rfl⟩
    rfl

/-- A sink that refuses nothing lets the drain of an encoder come to its end. -/
theorem flush_accepted (e : Engine b σ) (hsink : sink.Accepts) (s : EncodeStage b) :
    Observes (s.flush e.onSecond sink.observed.inputFrame) (s.flush e sink.inputFrame)
      fun calls r => AllTaken s.trackType calls r.1 := by
  refine flush_observed e sink (fun s calls r => AllTaken s.trackType calls r.1) ?_ ?_ s
  · intro s packet next less w w' hpull unit answer
    -- There is no refusal, so the drain goes on after every packet.
    have hanswer : answer = .ok () := hsink.inputFrame unit w'
    rw [hanswer]
    refine ⟨fun fault hfault => ?_, ?_⟩
    · cases hfault
    · rintro - more r ⟨hok, units, rfl, hunits⟩
      exact ⟨hok, unit :: units, rfl, List.forall_mem_cons.mpr ⟨rfl, hunits⟩⟩
  · exact fun s s' w hstops => .nil _

/-- The drain of an encoder tells the first sink what it tells the second, up to the first frame
    that is refused. -/
theorem flush_alongside (he : e.Agree alike e') (hsinks : sink.Alongside alike sink')
    (hsink' : sink'.Accepts) (s : EncodeStage b) {w : σ} {w' : τ} (hw : alike w w') :
    Alongside (s.flush e.onSecond sink.observed.inputFrame) w
      (s.flush e'.onSecond sink'.observed.inputFrame) w'
      fun calls r v calls' r' v' => r'.1 = .ok ()
        ∧ CutShort s.trackType alike calls r.1 v calls' v' := by
  -- The induction is on what the encoder still holds.
  induction s using EncodeStage.flush.induct generalizing w w' with
  | case1 s ih =>
      rw [EncodeStage.flush, EncodeStage.flush]
      refine Alongside.bind_silent (he.drainEncoder s.context) hw fun v v' hv => ?_
      rcases (e.drainEncoder s.context w).value with ⟨packet, next, less⟩ | next | ⟨cause, next⟩
      · refine Alongside.bind_recorded ?_
        have hv' := hsinks (s.unitOf packet none none) v v' hv
        -- The second sink takes the frame. It is the first that decides how to go on.
        rw [hsink'.inputFrame]
        rcases (sink.inputFrame (s.unitOf packet none none) v).value with fault | _
        · -- The first drain ends here, and the second goes on alone.
          refine .pure_left _ _ (flush_accepted e' hsink' { s with context := next }) ?_
          rintro calls' ⟨outcome, s'⟩ u' ⟨rfl, units, rfl, hunits⟩
          exact ⟨rfl, [], s.unitOf packet none none, units,
            List.forall_mem_cons.mpr ⟨rfl, hunits⟩, rfl, rfl⟩
        · refine (ih next less hv').mono ?_
          exact fun calls r u calls' r' u' hrest => ⟨hrest.1, hrest.2.cons rfl⟩
      · exact .pure ⟨rfl, .nil hv⟩
      · exact .bind_note _ _ (.pure ⟨rfl, .nil hv⟩)

end EncodeStage

namespace Chain

/-- A decoded frame is encoded in front of both sinks. -/
theorem consumer_alongside (he : e.Agree alike e') (hsinks : sink.Alongside alike sink')
    (encode : EncodeStage b) (picture : Picture b.Store) (source : Codec)
    (hkind : source.trackType = encode.trackType) {w : σ} {w' : τ} (hw : alike w w') :
    Alongside (consumer e.onSecond sink.observed encode ⟨picture, some source⟩) w
      (consumer e'.onSecond sink'.observed encode ⟨picture, some source⟩) w'
      fun calls r v calls' r' v' =>
        BothDelivered encode.trackType sink sink' calls r.1.outcome calls' r'.1.outcome
          ∧ r.1.kept = r'.1.kept ∧ r.2 = r'.2 ∧ r.2.settings = encode.settings ∧ alike v v' := by
  refine (EncodeStage.input_alongside he hsinks ⟨picture, some source⟩ encode hkind hw).bind ?_
  rintro calls ⟨outcome, stage⟩ v calls' ⟨outcome', stage'⟩ v' ⟨hdelivered, hstage, hsettings, hv⟩
  refine .pure ?_
  rw [List.append_nil, List.append_nil]
  exact ⟨hdelivered, rfl, hstage, hsettings, hv⟩

/-- Putting a frame into a chain tells both sinks of what comes out, whatever they answer,
    and leaves the same chain. -/
theorem input_alongside (he : e.Agree alike e') (hsinks : sink.Alongside alike sink')
    (unit : AccessUnit) (c : Chain b) (hkind : unit.trackType = c.encode.trackType) {w : σ}
    {w' : τ} (hw : alike w w') :
    Alongside (c.input e.onSecond sink.observed unit) w (c.input e'.onSecond sink'.observed unit) w'
      fun calls r v calls' r' v' =>
        BothDelivered unit.trackType sink sink' calls r.1 calls' r'.1 ∧ r.2 = r'.2
          ∧ alike v v' := by
  unfold input DecodeStage.feed
  simp only [bind_assoc, DecodeStage.input_onSecond]
  refine Alongside.bind_silent (DecodeStage.input_agree he unit c.decode) hw fun v v' hv => ?_
  rcases c.decode.input_value e unit w with ⟨blank, w₀, -, pool, hinput⟩
  -- Without a decoded frame neither sink is told anything.
  rcases hvalue : (c.decode.input e unit w).value with ⟨_ | frame, decode⟩
  · simp only [pure_bind]
    exact .pure ⟨.nothing .., rfl, hv⟩
  · rw [hvalue] at hinput
    rcases Option.map_eq_some_iff.mp (congrArg Prod.fst hinput).symm with ⟨picture, -, rfl⟩
    simp only [bind_assoc, pure_bind]
    refine (consumer_alongside he hsinks c.encode picture unit.codec hkind hv).bind ?_
    rintro calls ⟨⟨outcome, kept⟩, encode⟩ u calls' ⟨⟨outcome', kept'⟩, encode'⟩ u'
      ⟨hdelivered, hkept, hencode, -, hu⟩
    cases hkept
    cases hencode
    refine .pure ?_
    rw [List.append_nil, List.append_nil, hkind]
    exact ⟨hdelivered, rfl, hu⟩

/-- A sink that refuses nothing takes what comes of a decoded frame. -/
theorem consumer_accepted (e : Engine b σ) (hsink : sink.Accepts) (encode : EncodeStage b)
    (picture : Picture b.Store) (source : Codec) (hkind : source.trackType = encode.trackType) :
    Observes (consumer e.onSecond sink.observed encode ⟨picture, some source⟩)
      (consumer e sink encode ⟨picture, some source⟩)
      fun calls r => AllTaken encode.trackType calls r.1.outcome
        ∧ r.2.settings = encode.settings := by
  refine (EncodeStage.input_accepted e hsink ⟨picture, some source⟩ encode hkind).bind ?_
  rintro calls ⟨outcome, encode'⟩ h
  refine Observes.pure ?_
  rw [List.append_nil]
  exact h

/-- A sink that refuses nothing lets the drain of a decoder come to its end. -/
theorem decode_flush_accepted (e : Engine b σ) (hsink : sink.Accepts) (decode : DecodeStage b)
    (encode : EncodeStage b) (hkind : decode.trackType = encode.trackType) :
    Observes (decode.flush e.onSecond (consumer e.onSecond sink.observed) encode)
      (decode.flush e (consumer e sink) encode)
      fun calls r => AllTaken encode.trackType calls r.1 ∧ r.2.2.settings = encode.settings := by
  refine DecodeStage.flush_observed e (fun decode encode => decode.trackType = encode.trackType)
    (fun _ encode calls r => AllTaken encode.trackType calls r.1
      ∧ r.2.2.settings = encode.settings) ?_ ?_ decode encode hkind
  · intro decode encode hkind blank pool picture next less w _ _
    refine (consumer_accepted e hsink encode picture decode.codec hkind).mono ?_
    rintro calls ⟨receipt, encode'⟩ ⟨htaken, hsettings⟩
    have hkind' : encode'.trackType = encode.trackType := congrArg Settings.trackType hsettings
    refine ⟨fun fault houtcome => ?_, fun _ => ⟨?_, ?_⟩⟩
    · -- A fault of the consumer would be a refusal.
      rw [htaken.1] at houtcome
      cases houtcome
    · rw [DecodeStage.trackType, DecodeStage.settle_codec, hkind']
      exact hkind
    · rintro more r ⟨hmore, hsettings'⟩
      rw [hkind'] at hmore
      exact ⟨htaken.append hmore, hsettings'.trans hsettings⟩
  · intro decode encode decode' blank w _ _
    exact ⟨.nil _, rfl⟩

/-- Draining a decoder into its encoder tells both sinks the same, up to the first refusal, and
    leaves the same encoder if there is none. -/
theorem decode_flush_alongside (he : e.Agree alike e') (hsinks : sink.Alongside alike sink')
    (hsink' : sink'.Accepts) (decode : DecodeStage b) (encode : EncodeStage b)
    (hkind : decode.trackType = encode.trackType) {w : σ} {w' : τ} (hw : alike w w') :
    Alongside (decode.flush e.onSecond (consumer e.onSecond sink.observed) encode) w
      (decode.flush e'.onSecond (consumer e'.onSecond sink'.observed) encode) w'
      fun calls r v calls' r' v' => r'.1 = .ok ()
        ∧ CutShort encode.trackType alike calls r.1 v calls' v'
        ∧ r'.2.2.settings = encode.settings ∧ (r.1 = .ok () → r.2.2 = r'.2.2) := by
  -- The induction is on what the decoder still holds.
  induction decode, encode using DecodeStage.flush.induct generalizing w w' with
  | case1 decode encode ih =>
      rw [DecodeStage.flush, DecodeStage.flush, Engine.obtain_onSecond, Engine.obtain_onSecond]
      refine Alongside.bind_silent (he.obtain decode.pool) hw fun v v' hv => ?_
      rcases (decode.pool.obtain e.fresh e.recycle w).value with ⟨blank, pool⟩
      refine Alongside.bind_silent (he.drainDecoder decode.context blank) hv fun u u' hu => ?_
      rcases (e.drainDecoder decode.context blank v).value with
        ⟨picture, ⟨_, next, less⟩ | next | ⟨cause, next⟩⟩
      · refine (consumer_alongside he hsinks encode picture decode.codec hkind hu).bind ?_
        rintro calls ⟨⟨outcome, kept⟩, stage⟩ z calls' ⟨⟨outcome', kept'⟩, stage'⟩ z'
          ⟨hdelivered, hkept, hstage, hsettings, hz⟩
        cases hkept
        cases hstage
        rcases CutShort.ofDelivered hsink' hz hdelivered with ⟨hok, hcut⟩
        cases hok
        have hkind' : stage.trackType = encode.trackType := congrArg Settings.trackType hsettings
        -- Whatever becomes of the picture, the decoder stays one for the kind of the encoder.
        have hvalid (receipt : Receipt) : (DecodeStage.settle receipt picture
            { decode with context := next, pool }).trackType = stage.trackType := by
          rw [DecodeStage.trackType, DecodeStage.settle_codec, hkind']
          exact hkind
        cases outcome with
        | error fault =>
            -- The first drain ends here, and the second goes on alone.
            refine .pure_left _ _ (decode_flush_accepted e' hsink' _ stage (hvalid _)) ?_
            rintro more ⟨outcome, decode', encode'⟩ z₁ ⟨htaken, hsettings'⟩
            rw [hkind'] at htaken
            rw [List.append_nil]
            refine ⟨htaken.1, hcut.extend _ _ htaken, hsettings'.trans hsettings, fun hok => ?_⟩
            cases hok
        | ok _ =>
            refine (ih pool ⟨picture, .empty next⟩ next less ⟨.ok (), kept⟩ stage (hvalid _)
              hz).mono ?_
            rintro more r z₁ more' r' z₁' ⟨hok, hmore, hsettings', hstages⟩
            rw [hkind'] at hmore
            exact ⟨hok, hcut.append hmore, hsettings'.trans hsettings, hstages⟩
      · exact .pure ⟨rfl, .nil hu, rfl, fun _ => rfl⟩
      · exact .bind_note _ _ (.pure ⟨rfl, .nil hu, rfl, fun _ => rfl⟩)

/-- The last part of draining a chain. -/
theorem encode_flush_accepted (e : Engine b σ) (hsink : sink.Accepts) (encode : EncodeStage b) :
    Observes
      (do
        let (outcome, _) ← encode.flush e.onSecond sink.observed.inputFrame
        return outcome)
      (do
        let (outcome, _) ← encode.flush e sink.inputFrame
        return outcome)
      fun calls outcome => AllTaken encode.trackType calls outcome := by
  refine (EncodeStage.flush_accepted e hsink encode).bind ?_
  rintro calls ⟨outcome, encode'⟩ htaken
  refine Observes.pure ?_
  rw [List.append_nil]
  exact htaken

/-- A sink that refuses nothing lets the drain of a chain come to its end. -/
theorem flush_accepted (e : Engine b σ) (hsink : sink.Accepts) (c : Chain b)
    (hkind : c.decode.trackType = c.encode.trackType) :
    Observes (c.flush e.onSecond sink.observed) (c.flush e sink)
      fun calls outcome => AllTaken c.encode.trackType calls outcome := by
  refine (decode_flush_accepted e hsink c.decode c.encode hkind).bind ?_
  rintro calls ⟨outcome, decode, encode⟩ ⟨htaken, hsettings⟩
  have hkind' : encode.trackType = c.encode.trackType := congrArg Settings.trackType hsettings
  -- The drain of the decoder has come to its end, so that of the encoder follows.
  cases htaken.1
  refine (encode_flush_accepted e hsink encode).mono fun more outcome hmore => ?_
  rw [hkind'] at hmore
  exact htaken.append hmore

/-- Draining a chain tells a sink what it tells one that takes everything, up to the first
    frame that is refused. -/
theorem flush_alongside (he : e.Agree alike e') (hsinks : sink.Alongside alike sink')
    (hsink' : sink'.Accepts) (c : Chain b) (hkind : c.decode.trackType = c.encode.trackType)
    {w : σ} {w' : τ} (hw : alike w w') :
    Alongside (c.flush e.onSecond sink.observed) w (c.flush e'.onSecond sink'.observed) w'
      fun calls outcome v calls' outcome' v' =>
        outcome' = .ok () ∧ CutShort c.encode.trackType alike calls outcome v calls' v' := by
  refine (decode_flush_alongside he hsinks hsink' c.decode c.encode hkind hw).bind ?_
  rintro calls ⟨outcome, decode, encode⟩ v calls' ⟨outcome', decode', encode'⟩ v'
    ⟨hok, hcut, hsettings, hstages⟩
  have hkind' : encode'.trackType = c.encode.trackType := congrArg Settings.trackType hsettings
  cases hok
  cases outcome with
  | error fault =>
      -- The decoder was not drained to its end, and the encoder is not drained at all.
      refine .pure_left _ _ (encode_flush_accepted e' hsink' encode') ?_
      intro more outcome v₁ hmore
      rw [hkind'] at hmore
      rw [List.append_nil]
      exact ⟨hmore.1, hcut.extend _ _ hmore⟩
  | ok _ =>
      -- Both encoders are still the same, and are drained side by side.
      cases hstages rfl
      rcases hcut with ⟨units, hunits, rfl, rfl, hv⟩
      refine (EncodeStage.flush_alongside he hsinks hsink' encode hv).bind ?_
      rintro more ⟨outcome, stage⟩ u more' ⟨outcome', stage'⟩ u' ⟨hok, hmore⟩
      rw [hkind'] at hmore
      refine .pure ⟨hok, ?_⟩
      rw [List.append_nil, List.append_nil]
      exact CutShort.append ⟨units, hunits, rfl, rfl, hv⟩ hmore

end Chain

end Recode
