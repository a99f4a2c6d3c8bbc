import Recode.Proofs.Emission

/-!
# Two worlds side by side

Whether something shows in a pipeline is a question about two runs of it. The worlds
of the two runs need not be of one type. All that is asked of them is that they are
alike in what matters, which is a relation between them, and that the engines of both
give the same answers in worlds that are alike and leave such worlds behind.

A pipeline does nothing with an engine but ask it. So what a stage does on its own is
the same in both runs, whatever the relation is. There is one lemma for each part of a
pipeline that never talks to the sink, and each follows its definition.

Two relations are of use later. An engine whose answers depend on the arguments alone
cannot tell any two worlds apart. And an engine that lives in a world of its own, beside
that of a sink, does not see what the sink does with the other part.

## Main definitions

* `Act.Agree`: The same value in worlds that are alike.
* `Engine.Agree`: Engines that give the same answers.
* `Engine.Steady`: Every answer depends on the arguments alone.

## Theorems

* `Act.Agree.bind`: Actions in a row.
* `Engine.Steady.agree`, `Engine.agree_onSecond`: The two relations of use.
* `Chain.build_agree`, `DecodeStage.input_agree`, `EncodeStage.bring_agree`: The parts
  that never talk to the sink.
-/

namespace Recode

namespace Act

variable {σ τ α β : Type}

/-- In worlds that are alike both actions yield the same value, and the worlds they leave
    behind are alike. -/
def Agree (alike : σ → τ → Prop) (x : Act σ α) (y : Act τ α) : Prop :=
  ∀ w w', alike w w' → (x w).value = (y w').value ∧ alike (x w).world (y w').world

namespace Agree

variable {alike : σ → τ → Prop} {x : Act σ α} {y : Act τ α} {f : α → Act σ β} {g : α → Act τ β}

theorem pure (a : α) : Agree alike (Pure.pure a) (Pure.pure a) := fun _ _ hw => ⟨rfl, hw⟩

/-- Actions in a row. Both go on with the same value, in worlds that are still alike. -/
theorem bind (hx : Agree alike x y) (hf : ∀ a, Agree alike (f a) (g a)) :
    Agree alike (x >>= f) (y >>= g) := by
  intro w w' hw
  rcases hx w w' hw with ⟨hvalue, hworld⟩
  simp only [bind_value, bind_world]
  rw [← hvalue]
  exact hf _ _ _ hworld

/-- Notes leave the world as it is. -/
theorem bind_note (n : Note) {f : Unit → Act σ β} {g : Unit → Act τ β}
    (hf : Agree alike (f ()) (g ())) : Agree alike (Act.note n >>= f) (Act.note n >>= g) :=
  fun w w' hw => hf w w' hw

end Agree

/-- The value is the same in every world. -/
def Steady (x : Act σ α) : Prop := ∀ w w', (x w).value = (x w').value

theorem Steady.agree {x : Act σ α} (h : x.Steady) : Agree (fun _ _ => True) x x :=
  fun w w' _ => ⟨h w w', trivial⟩

/-- What an action does in the second part of a world depends on that part alone. -/
theorem agree_onSecond {ρ ρ' : Type} (x : Act σ α) :
    Agree (fun (w : ρ × σ) (w' : ρ' × σ) => w.2 = w'.2) x.onSecond x.onSecond := by
  rintro ⟨v, w⟩ ⟨v', w'⟩ hw
  cases hw
  exact ⟨rfl, rfl⟩

end Act

open Act

variable {b : Backend} {σ τ ι γ : Type}

/-- In worlds that are alike both engines give the same answers, and the worlds they leave
    behind are alike. -/
structure Engine.Agree (alike : σ → τ → Prop) (e : Engine b σ) (e' : Engine b τ) : Prop where
  findDecoder : ∀ l, Act.Agree alike (e.findDecoder l) (e'.findDecoder l)
  findEncoder : ∀ l, Act.Agree alike (e.findEncoder l) (e'.findEncoder l)
  implementationName : e.implementationName = e'.implementationName
  openDecoder : ∀ i track, Act.Agree alike (e.openDecoder i track) (e'.openDecoder i track)
  openEncoder : ∀ i settings, Act.Agree alike (e.openEncoder i settings) (e'.openEncoder i settings)
  openConverter : ∀ geometry target,
    Act.Agree alike (e.openConverter geometry target) (e'.openConverter geometry target)
  pixelFormats : ∀ context, Act.Agree alike (e.pixelFormats context) (e'.pixelFormats context)
  decode : ∀ context packet blank,
    Act.Agree alike (e.decode context packet blank) (e'.decode context packet blank)
  drainDecoder : ∀ context blank,
    Act.Agree alike (e.drainDecoder context blank) (e'.drainDecoder context blank)
  encode : ∀ context picture, Act.Agree alike (e.encode context picture) (e'.encode context picture)
  drainEncoder : ∀ context, Act.Agree alike (e.drainEncoder context) (e'.drainEncoder context)
  convert : ∀ context picture blank,
    Act.Agree alike (e.convert context picture blank) (e'.convert context picture blank)
  fresh : Act.Agree alike e.fresh e'.fresh
  recycle : e.recycle = e'.recycle

/-- Every answer depends on the arguments alone, and so on the context that is asked,
    which is one of them. What is opened is therefore determined by what it is opened for,
    and no two contexts have anything in common. -/
structure Engine.Steady (e : Engine b σ) : Prop where
  findDecoder : ∀ l, (e.findDecoder l).Steady
  findEncoder : ∀ l, (e.findEncoder l).Steady
  openDecoder : ∀ i track, (e.openDecoder i track).Steady
  openEncoder : ∀ i settings, (e.openEncoder i settings).Steady
  openConverter : ∀ geometry target, (e.openConverter geometry target).Steady
  pixelFormats : ∀ context, (e.pixelFormats context).Steady
  decode : ∀ context packet blank, (e.decode context packet blank).Steady
  drainDecoder : ∀ context blank, (e.drainDecoder context blank).Steady
  encode : ∀ context picture, (e.encode context picture).Steady
  drainEncoder : ∀ context, (e.drainEncoder context).Steady
  convert : ∀ context picture blank, (e.convert context picture blank).Steady
  fresh : e.fresh.Steady

/-- Such an engine cannot tell worlds apart. -/
theorem Engine.Steady.agree {e : Engine b σ} (h : e.Steady) : e.Agree (fun _ _ => True) e :=
  { findDecoder := fun l => (h.findDecoder l).agree
    findEncoder := fun l => (h.findEncoder l).agree
    implementationName := rfl
    openDecoder := fun i track => (h.openDecoder i track).agree
    openEncoder := fun i settings => (h.openEncoder i settings).agree
    openConverter := fun geometry target => (h.openConverter geometry target).agree
    pixelFormats := fun context => (h.pixelFormats context).agree
    decode := fun context packet blank => (h.decode context packet blank).agree
    drainDecoder := fun context blank => (h.drainDecoder context blank).agree
    encode := fun context picture => (h.encode context picture).agree
    drainEncoder := fun context => (h.drainEncoder context).agree
    convert := fun context picture blank => (h.convert context picture blank).agree
    fresh := h.fresh.agree
    recycle := rfl }

/-- An engine that lives in the second part of a world does not see the first. -/
theorem Engine.agree_onSecond {ρ ρ' : Type} (e : Engine b σ) :
    (e.onSecond (ρ := ρ)).Agree (fun w w' => w.2 = w'.2) (e.onSecond (ρ := ρ')) :=
  -- Every call is moved into the larger world in the same way.
  { findDecoder := fun l => Act.agree_onSecond (e.findDecoder l)
    findEncoder := fun l => Act.agree_onSecond (e.findEncoder l)
    implementationName := rfl
    openDecoder := fun i track => Act.agree_onSecond (e.openDecoder i track)
    openEncoder := fun i settings => Act.agree_onSecond (e.openEncoder i settings)
    openConverter := fun geometry target => Act.agree_onSecond (e.openConverter geometry target)
    pixelFormats := fun context => Act.agree_onSecond (e.pixelFormats context)
    decode := fun context packet blank => Act.agree_onSecond (e.decode context packet blank)
    drainDecoder := fun context blank => Act.agree_onSecond (e.drainDecoder context blank)
    encode := fun context picture => Act.agree_onSecond (e.encode context picture)
    drainEncoder := fun context => Act.agree_onSecond (e.drainEncoder context)
    convert := fun context picture blank => Act.agree_onSecond (e.convert context picture blank)
    fresh := Act.agree_onSecond e.fresh
    recycle := rfl }

variable {alike : σ → τ → Prop} {e : Engine b σ} {e' : Engine b τ}

/-- A pool is used up in the same way in front of both worlds. -/
theorem Pool.obtain_agree {fresh : Act σ γ} {fresh' : Act τ γ} (h : Act.Agree alike fresh fresh')
    (recycle : γ → γ) (p : Pool γ) :
    Act.Agree alike (p.obtain fresh recycle) (p.obtain fresh' recycle) := by
  unfold Pool.obtain
  -- Only an empty pool asks for something new.
  cases p.idle with
  | nil => exact h.bind fun a => .pure _
  | cons a rest => exact .pure _

/-- Pictures for a stage come from the pool, or from engines that agree. -/
theorem Engine.Agree.obtain (he : e.Agree alike e') (pool : Pool (Picture b.Store)) :
    Act.Agree alike (pool.obtain e.fresh e.recycle) (pool.obtain e'.fresh e'.recycle) := by
  rw [he.recycle]
  exact Pool.obtain_agree he.fresh e'.recycle pool

/-- Searches that find the same and open the same settle on the same. -/
theorem selectFrom_agree {find : Lookup → Act σ (Option ι)} {find' : Lookup → Act τ (Option ι)}
    {attempt : ι → Act σ (Except Cause γ)} {attempt' : ι → Act τ (Except Cause γ)}
    (hfind : ∀ l, Act.Agree alike (find l) (find' l))
    (hattempt : ∀ i, Act.Agree alike (attempt i) (attempt' i)) (codec : Codec) (name : ι → String)
    (failures : Failures) (lookups : List Lookup) :
    Act.Agree alike (selectFrom codec find name attempt failures lookups)
      (selectFrom codec find' name attempt' failures lookups) := by
  -- The induction is on the look-ups not tried yet. What failed so far is the same in both.
  induction lookups generalizing failures with
  | nil => exact .pure _
  | cons lookup lookups ih =>
      rw [selectFrom, selectFrom]
      refine (hfind lookup).bind fun found? => ?_
      cases found? with
      | none => exact ih failures
      | some found =>
          -- Both pass over the same implementations, as they go by their names.
          by_cases htried : (failures.map Prod.fst).contains (name found)
          · simp only [if_pos htried]
            exact ih failures
          · simp only [if_neg htried]
            refine (hattempt found).bind fun opened => ?_
            cases opened with
            | ok context => exact .bind_note _ (.pure _)
            | error cause => exact .bind_note _ (ih _)

/-- The same of the whole search, over all look-ups for a codec. -/
theorem select_agree {find : Lookup → Act σ (Option ι)} {find' : Lookup → Act τ (Option ι)}
    {attempt : ι → Act σ (Except Cause γ)} {attempt' : ι → Act τ (Except Cause γ)}
    (hfind : ∀ l, Act.Agree alike (find l) (find' l))
    (hattempt : ∀ i, Act.Agree alike (attempt i) (attempt' i)) (codec : Codec)
    (preferred : List String) (name : ι → String) :
    Act.Agree alike (select codec preferred find name attempt)
      (select codec preferred find' name attempt') :=
  selectFrom_agree hfind hattempt codec name [] (lookups codec preferred)

theorem DecodeStage.build_agree (he : e.Agree alike e') (track : Track) (poolSize : Nat) :
    Act.Agree alike (DecodeStage.build e track poolSize) (DecodeStage.build e' track poolSize) := by
  unfold DecodeStage.build
  rw [he.implementationName]
  refine (select_agree he.findDecoder (fun i => he.openDecoder i track) track.codec _ _).bind
    fun selection => ?_
  cases selection <;> exact .pure _

/-- Only an encoder for pictures is asked for its formats. -/
theorem EncodeStage.formatsOf_agree (he : e.Agree alike e') (codec : Codec) (context : b.Encoder) :
    Act.Agree alike (EncodeStage.formatsOf e codec context)
      (EncodeStage.formatsOf e' codec context) := by
  unfold EncodeStage.formatsOf
  by_cases hvideo : codec.isVideo = true
  · simp only [if_pos hvideo]
    refine (he.pixelFormats context).bind fun formats => ?_
    cases formats <;> exact .pure _
  · simp only [if_neg hvideo]
    exact .pure _

theorem EncodeStage.build_agree (he : e.Agree alike e') (settings : Settings) (poolSize : Nat) :
    Act.Agree alike (EncodeStage.build e settings poolSize)
      (EncodeStage.build e' settings poolSize) := by
  unfold EncodeStage.build
  rw [he.implementationName]
  refine (select_agree he.findEncoder (fun i => he.openEncoder i settings) settings.codec _ _).bind
    fun selection => ?_
  cases selection with
  | opened context implementation =>
      refine (formatsOf_agree he settings.codec context).bind fun formats => ?_
      cases formats <;> exact .pure _
  | unavailable => exact .pure _
  | initFailed implementation cause => exact .pure _

/-- Opening a chain. -/
theorem Chain.build_agree (he : e.Agree alike e') (track : Track) (settings : Settings)
    (poolSize : Nat) :
    Act.Agree alike (Chain.build e track settings poolSize)
      (Chain.build e' track settings poolSize) := by
  unfold Chain.build
  refine (DecodeStage.build_agree he track poolSize).bind fun decode => ?_
  cases decode with
  | error fault => exact .pure _
  | ok decode =>
      refine (EncodeStage.build_agree he settings poolSize).bind fun encode => ?_
      cases encode <;> exact .pure _

namespace ConvertStage

theorem openConversion_agree (he : e.Agree alike e') (geometry : Geometry) (target : PixelFormat) :
    Act.Agree alike (openConversion e geometry target) (openConversion e' geometry target) := by
  unfold openConversion
  refine (he.openConverter geometry target).bind fun opened => ?_
  cases opened <;> exact .bind_note _ (.pure _)

/-- Engines that agree prepare the same converter for a geometry. -/
theorem prepare_agree (he : e.Agree alike e') (geometry : Geometry) (s : ConvertStage b) :
    Act.Agree alike (s.prepare e geometry) (s.prepare e' geometry) := by
  have hopen := openConversion_agree he geometry s.target
  unfold prepare
  -- A converter is opened unless the last attempt was for the same geometry.
  cases s.conversion with
  | idle => exact hopen
  | ready context current =>
      by_cases hsame : current = geometry
      · simp only [if_pos hsame]
        exact .pure _
      · simp only [if_neg hsame]
        exact .bind_note _ hopen
  | refused current =>
      by_cases hsame : current = geometry
      · simp only [if_pos hsame]
        exact .pure _
      · simp only [if_neg hsame]
        exact hopen

/-- A frame is converted to the same frame, or left out by both. -/
theorem convert_agree (he : e.Agree alike e') (frame : RawFrame b.Store) (s : ConvertStage b) :
    Act.Agree alike (s.convert e frame) (s.convert e' frame) := by
  unfold convert
  cases frame.picture.geometry? with
  | none => exact .pure _
  | some geometry =>
      -- A picture that is in the format of the target already needs no converter.
      by_cases hsame : geometry.format = s.target
      · simp only [if_pos hsame]
        exact .pure _
      · simp only [if_neg hsame]
        refine (prepare_agree he geometry s).bind fun conversion => ?_
        cases conversion with
        | idle => exact .pure _
        | refused geometry => exact .pure _
        | ready context geometry =>
            refine (he.obtain s.pool).bind fun obtained => ?_
            refine (he.convert context frame.picture obtained.1).bind fun converted => ?_
            -- A conversion that fails costs the frame, and is noted by both.
            rcases converted.outcome with cause | _
            · exact .bind_note _ (.pure _)
            · exact .pure _

end ConvertStage

/-- The format is settled without the engine, from what the stage holds. -/
theorem EncodeStage.converterFor_agree (incoming : PixelFormat) (s : EncodeStage b) :
    Act.Agree alike (s.converterFor incoming) (s.converterFor incoming) := by
  unfold EncodeStage.converterFor
  cases s.converter with
  | none => exact .bind_note _ (.pure _)
  | some converter => exact .pure _

/-- Bringing a frame to the encoder. -/
theorem EncodeStage.bring_agree (he : e.Agree alike e') (frame : RawFrame b.Store)
    (s : EncodeStage b) : Act.Agree alike (s.bring e frame) (s.bring e' frame) := by
  unfold EncodeStage.bring
  -- Sound goes to the encoder as it is.
  cases s.trackType with
  | audio => exact .pure _
  | video =>
      cases frame.picture.pixel with
      | none => exact .bind_note _ (.pure _)
      | some incoming =>
          refine (converterFor_agree incoming s).bind fun converter => ?_
          refine (ConvertStage.convert_agree he frame converter).bind fun r => ?_
          rcases r with ⟨_ | converted, converter⟩ <;> exact .pure _

/-- Decoding a frame. -/
theorem DecodeStage.input_agree (he : e.Agree alike e') (unit : AccessUnit) (s : DecodeStage b) :
    Act.Agree alike (s.input e unit) (s.input e' unit) := by
  unfold DecodeStage.input
  refine (he.obtain s.pool).bind fun obtained => ?_
  refine (he.decode s.context _ obtained.1).bind fun decoded => ?_
  -- The decoder fails, or wants more, or has a picture.
  rcases decoded.outcome with cause | _ | _
  · exact .bind_note _ (.pure _)
  · exact .pure _
  · exact .pure _

end Recode
