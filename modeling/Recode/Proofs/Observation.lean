import Recode.Transcoder.Operation

/-!
# Observing a sink

What a sink is told is the only thing a pipeline does that matters outside, and
a statement about it needs a record that neither the engine nor the sink can
touch. So the world is made larger by a list. The engine acts in the old part of
it, and the sink does too, but every call on the sink is written to the list
together with its answer.

An observed pipeline must not behave differently from the pipeline itself.
`Act.Observes` therefore relates an action in the larger world to the one it
observes: the values, the notes and the old part of the world are the same, and
the list only grows at its end. What is added to it is described by a condition
that may also speak about the value, which makes `Observes` a small program
logic with one rule for each way of building actions.

Most of a pipeline never talks to the sink. Running in the second part of a world
respects sequences of actions, so for those parts the relation is an equation:
with the engine moved to the larger world they are the same actions, moved.

## Main definitions

* `SinkCall`: A call on a sink, with its answer.
* `Act.recorded`: Runs an action and makes an entry for it.
* `Sink.observed`: A sink whose calls are recorded.
* `Act.Observes`: One action observes another, and what it records.

## Theorems

* `Act.onSecond_bind`: Actions in a row are moved one by one.
* `Act.Observes.bind`: Observed actions in a row.
* `Act.Observes.bind_silent`, `Act.Observes.bind_recorded`: The same where the
  first action makes no entry, or exactly one.
* `Chain.build_onSecond`, `ConvertStage.convert_onSecond`,
  `DecodeStage.input_onSecond`: The parts that never talk to the sink.
-/

namespace Recode

/-- A call on a sink, with its answer where it has one. -/
inductive SinkCall where
  | addTrack (track : Track) (answer : Except Fault Unit)
  | inputFrame (unit : AccessUnit) (answer : Except Fault Unit)
  | tracksCompleted
  | resetTracks

namespace Act

variable {σ ρ α β κ : Type}

@[simp] theorem onSecond_pure (a : α) :
    (pure a : Act σ α).onSecond = (pure a : Act (ρ × σ) α) := rfl

@[simp] theorem onSecond_bind (x : Act σ α) (f : α → Act σ β) :
    (x >>= f).onSecond = (x.onSecond >>= fun a => (f a).onSecond : Act (ρ × σ) β) := rfl

@[simp] theorem onSecond_note (n : Note) : (note n : Act σ Unit).onSecond (ρ := ρ) = note n := rfl

/-- Runs an action in the second part of a larger world and adds an entry made from
    its value to the record in the first part. -/
def recorded (x : Act σ α) (entry : α → κ) : Act (List κ × σ) α := fun w =>
  let inner := x w.2
  ⟨inner.value, inner.notes, (w.1 ++ [entry inner.value], inner.world)⟩

/-- `x` does in a world with a record what `y` does in the world alone, and what it
    adds to the record satisfies `post` together with the value. -/
def Observes (x : Act (List κ × σ) α) (y : Act σ α) (post : List κ → α → Prop) : Prop :=
  ∀ (record : List κ) (w : σ), ∃ entries,
    x (record, w) = ⟨(y w).value, (y w).notes, (record ++ entries, (y w).world)⟩
      ∧ post entries (y w).value

namespace Observes

variable {x : Act (List κ × σ) α} {y : Act σ α} {f : α → Act (List κ × σ) β} {g : α → Act σ β}
  {p : List κ → α → Prop} {q : List κ → β → Prop}

theorem mono {p' : List κ → α → Prop} (hx : Observes x y p)
    (h : ∀ entries a, p entries a → p' entries a) : Observes x y p' := by
  intro record w
  rcases hx record w with ⟨entries, heq, hp⟩
  exact ⟨entries, heq, h entries _ hp⟩

theorem pure {a : α} (h : p [] a) :
    Observes (Pure.pure a : Act (List κ × σ) α) (Pure.pure a : Act σ α) p := by
  intro record w
  refine ⟨[], ?_, h⟩
  simp only [pure_apply, List.append_nil]

/-- Observed actions in a row add what the first adds and then what the second adds. -/
theorem bind (hx : Observes x y p)
    (hf : ∀ entries a, p entries a → Observes (f a) (g a) fun more b => q (entries ++ more) b) :
    Observes (x >>= f) (y >>= g) q := by
  intro record w
  rcases hx record w with ⟨entries, heq, hp⟩
  -- The second action finds the entries of the first at the end of its record.
  rcases hf entries _ hp (record ++ entries) (y w).world with ⟨more, heq', hq⟩
  refine ⟨entries ++ more, ?_, hq⟩
  simp only [bind_apply, heq, heq', List.append_assoc]

/-- An action that runs in the old world alone makes no entry. -/
theorem silent (y : Act σ α) :
    Observes (y.onSecond : Act (List κ × σ) α) y
      fun entries a => entries = [] ∧ ∃ w, a = (y w).value := by
  intro record w
  exact ⟨[], by rw [List.append_nil]; rfl, rfl, w, rfl⟩

theorem recorded (y : Act σ α) (entry : α → κ) :
    Observes (y.recorded entry) y fun entries a => entries = [entry a] ∧ ∃ w, a = (y w).value := by
  intro record w
  exact ⟨[entry (y w).value], rfl, rfl, w, rfl⟩

/-- What comes first runs in the old world alone, so all entries are made by the rest. -/
theorem bind_silent (hf : ∀ w, Observes (f (y w).value) (g (y w).value) q) :
    Observes (y.onSecond >>= f) (y >>= g) q := by
  refine bind (silent y) ?_
  rintro _ _ ⟨rfl, w, rfl⟩
  exact hf w

theorem bind_note (n : Note) {f : Unit → Act (List κ × σ) β} {g : Unit → Act σ β}
    (hf : Observes (f ()) (g ()) q) : Observes (Act.note n >>= f) (Act.note n >>= g) q :=
  bind_silent (y := Act.note n) fun _ => hf

/-- What comes first makes the first entry, and the rest makes the others. -/
theorem bind_recorded {entry : α → κ}
    (hf : ∀ w, Observes (f (y w).value) (g (y w).value)
      fun more b => q (entry (y w).value :: more) b) :
    Observes (y.recorded entry >>= f) (y >>= g) q := by
  refine bind (recorded y entry) ?_
  rintro _ _ ⟨rfl, w, rfl⟩
  exact hf w

end Observes

end Act

/-- A sink that acts as `s` does and whose calls are recorded. -/
def Sink.observed {σ : Type} (s : Sink σ) : Sink (List SinkCall × σ) :=
  { addTrack := fun track => (s.addTrack track).recorded (.addTrack track)
    inputFrame := fun unit => (s.inputFrame unit).recorded (.inputFrame unit)
    tracksCompleted := s.tracksCompleted.recorded fun _ => .tracksCompleted
    resetTracks := s.resetTracks.recorded fun _ => .resetTracks }

section

variable {b : Backend} {σ ρ ι γ : Type}

/-- A search that looks up and opens in the second part of a world runs there as a whole. -/
theorem selectFrom_onSecond (codec : Codec) (find : Lookup → Act σ (Option ι)) (name : ι → String)
    (attempt : ι → Act σ (Except Cause γ)) (failures : Failures) (lookups : List Lookup) :
    selectFrom codec (fun l => (find l).onSecond (ρ := ρ)) name (fun i => (attempt i).onSecond)
        failures lookups
      = (selectFrom codec find name attempt failures lookups).onSecond := by
  induction lookups generalizing failures with
  | nil => rfl
  | cons lookup lookups ih =>
      rw [selectFrom, selectFrom, Act.onSecond_bind]
      -- Both sides look up the same. The cases are those of the search.
      refine bind_congr fun found? => ?_
      cases found? with
      | none => exact ih failures
      | some found =>
          simp only []
          split
          · exact ih failures
          · rw [Act.onSecond_bind]
            refine bind_congr fun opened => ?_
            cases opened with
            | ok context => rfl
            | error cause =>
                simp only [Act.onSecond_bind, Act.onSecond_note]
                exact bind_congr fun _ => ih _

theorem select_onSecond (codec : Codec) (preferred : List String)
    (find : Lookup → Act σ (Option ι)) (name : ι → String) (attempt : ι → Act σ (Except Cause γ)) :
    select codec preferred (fun l => (find l).onSecond (ρ := ρ)) name
        (fun i => (attempt i).onSecond)
      = (select codec preferred find name attempt).onSecond :=
  selectFrom_onSecond codec find name attempt [] (lookups codec preferred)

/-- A pool is no part of a world, so only making something new is moved. -/
theorem Pool.obtain_onSecond (fresh : Act σ γ) (recycle : γ → γ) (p : Pool γ) :
    p.obtain (fresh.onSecond (ρ := ρ)) recycle = (p.obtain fresh recycle).onSecond := by
  unfold Pool.obtain
  cases p.idle <;> rfl

theorem Engine.obtain_onSecond (e : Engine b σ) (pool : Pool (Picture b.Store)) :
    pool.obtain (e.onSecond (ρ := ρ)).fresh (e.onSecond (ρ := ρ)).recycle
      = (pool.obtain e.fresh e.recycle).onSecond :=
  Pool.obtain_onSecond e.fresh e.recycle pool

theorem DecodeStage.build_onSecond (e : Engine b σ) (track : Track) (poolSize : Nat) :
    DecodeStage.build (e.onSecond (ρ := ρ)) track poolSize
      = (DecodeStage.build e track poolSize).onSecond := by
  unfold DecodeStage.build
  simp only [Act.onSecond_bind, Engine.onSecond, select_onSecond]
  refine bind_congr fun selection => ?_
  cases selection <;> rfl

theorem EncodeStage.formatsOf_onSecond (e : Engine b σ) (codec : Codec) (context : b.Encoder) :
    EncodeStage.formatsOf (e.onSecond (ρ := ρ)) codec context
      = (EncodeStage.formatsOf e codec context).onSecond := by
  unfold EncodeStage.formatsOf
  split
  · simp only [Act.onSecond_bind, Engine.onSecond]
    refine bind_congr fun formats => ?_
    split <;> rfl
  · rfl

/-- Opening an encode stage does not talk to the sink. -/
theorem EncodeStage.build_onSecond (e : Engine b σ) (settings : Settings) (poolSize : Nat) :
    EncodeStage.build (e.onSecond (ρ := ρ)) settings poolSize
      = (EncodeStage.build e settings poolSize).onSecond := by
  unfold EncodeStage.build
  -- The formats come first: unfolding the engine would hide it from their equation.
  simp only [EncodeStage.formatsOf_onSecond, Act.onSecond_bind]
  simp only [Engine.onSecond, select_onSecond]
  refine bind_congr fun selection => ?_
  cases selection with
  | opened context implementation =>
      simp only [Act.onSecond_bind]
      refine bind_congr fun formats => ?_
      cases formats <;> rfl
  | unavailable => rfl
  | initFailed implementation cause => rfl

/-- Opening a chain does not talk to the sink. The track is announced by whoever opens it. -/
theorem Chain.build_onSecond (e : Engine b σ) (track : Track) (settings : Settings)
    (poolSize : Nat) :
    Chain.build (e.onSecond (ρ := ρ)) track settings poolSize
      = (Chain.build e track settings poolSize).onSecond := by
  unfold Chain.build
  simp only [Act.onSecond_bind, DecodeStage.build_onSecond, EncodeStage.build_onSecond]
  refine bind_congr fun decode => ?_
  cases decode with
  | error fault => rfl
  | ok decode =>
      simp only [Act.onSecond_bind]
      refine bind_congr fun encode => ?_
      cases encode <;> rfl

theorem ConvertStage.openConversion_onSecond (e : Engine b σ) (geometry : Geometry)
    (target : PixelFormat) :
    ConvertStage.openConversion (e.onSecond (ρ := ρ)) geometry target
      = (ConvertStage.openConversion e geometry target).onSecond := by
  unfold ConvertStage.openConversion
  simp only [Act.onSecond_bind, Engine.onSecond]
  refine bind_congr fun opened => ?_
  cases opened <;> rfl

theorem ConvertStage.prepare_onSecond (e : Engine b σ) (geometry : Geometry)
    (s : ConvertStage b) :
    s.prepare (e.onSecond (ρ := ρ)) geometry = (s.prepare e geometry).onSecond := by
  unfold ConvertStage.prepare
  simp only [ConvertStage.openConversion_onSecond]
  -- Whether a converter has to be opened is decided without the world.
  cases s.conversion with
  | idle => rfl
  | ready context current => simp only []; split <;> rfl
  | refused current => simp only []; split <;> rfl

/-- Converting a frame does not talk to the sink. -/
theorem ConvertStage.convert_onSecond (e : Engine b σ) (frame : RawFrame b.Store)
    (s : ConvertStage b) :
    s.convert (e.onSecond (ρ := ρ)) frame = (s.convert e frame).onSecond := by
  -- Only opening a converter, getting a picture and converting reach the engine.
  unfold ConvertStage.convert
  cases frame.picture.geometry? with
  | none => rfl
  | some geometry =>
      simp only [ConvertStage.prepare_onSecond]
      split
      · rfl
      · rw [Act.onSecond_bind]
        refine bind_congr fun conversion => ?_
        cases conversion with
        | ready context geometry =>
            simp only [Act.onSecond_bind, Engine.onSecond, Pool.obtain_onSecond]
            refine bind_congr fun obtained => bind_congr fun converted => ?_
            cases converted.outcome <;> rfl
        | idle => rfl
        | refused geometry => rfl

theorem EncodeStage.converterFor_onSecond (incoming : PixelFormat) (s : EncodeStage b) :
    s.converterFor (σ := ρ × σ) incoming = (s.converterFor (σ := σ) incoming).onSecond := by
  unfold EncodeStage.converterFor
  cases s.converter <;> rfl

theorem DecodeStage.input_onSecond (e : Engine b σ) (unit : AccessUnit) (s : DecodeStage b) :
    s.input (e.onSecond (ρ := ρ)) unit = (s.input e unit).onSecond := by
  unfold DecodeStage.input
  simp only [Act.onSecond_bind, Engine.onSecond, Pool.obtain_onSecond]
  refine bind_congr fun obtained => bind_congr fun decoded => ?_
  rcases decoded.outcome with cause | _ | _ <;> rfl

end

end Recode
