import Recode.Proofs.Emission
import Recode.Loopback

/-!
# What a convert stage asks for

A convert stage holds on to a context of the engine as long as it fits, and to a
refusal as well. That a context fits is no property of the context, which may be any
value at all. It fits if it was opened for the geometry at hand, or comes from one that
was. So the calls on the engine are recorded with their answers, and `OpenedFor` tells
from the record what a context is good for.

The stage remembers one geometry. It is that of the last frame that was not in the
target format, whatever became of that frame. A record that ends in an opening for this
geometry, and a stage that holds what came of the opening, are what every frame leaves
behind.

What a single frame does is said once, in `Converting`, with no regard to the past. The
invariant takes it from there, frame by frame. Between the frames pictures may come back
to the pool, and everything else in the world may change.

## Main definitions

* `EngineCall`, `Engine.observed`: An engine whose calls are recorded.
* `openings`: The conversions that were asked for.
* `OpenedFor`: A context is good for a geometry.
* `RawFrame.wants`: The geometry that a frame has to be converted from.
* `Prepared`, `Converting`: What becomes of a single frame.
* `ConvertStage.Fits`: What a stage holds goes with the past.
* `ConvertStage.Reached`: What a stage may have been through.

## Theorems

* `ConvertStage.prepare_observed`, `ConvertStage.convert_observed`: What a stage asks for
  when a frame comes in.
* `Converting.fits`: What a frame preserves.
* `ConvertStage.Reached.fits`: What a whole sequence of frames preserves.
* `ConvertStage.convert_after`: What a stage asks for and yields, after any sequence of
  frames.
-/

namespace Recode

open Act

variable {b : Backend} {σ : Type}

/-- A call on an engine, with its answer where that is of interest. -/
inductive EngineCall (b : Backend) where
  | findDecoder (lookup : Lookup)
  | findEncoder (lookup : Lookup)
  | openDecoder (implementation : b.Implementation) (track : Track)
  | openEncoder (implementation : b.Implementation) (settings : Settings)
  | openConverter (geometry : Geometry) (target : PixelFormat) (answer : Except Cause b.Converter)
  | pixelFormats (context : b.Encoder)
  | decode (context : b.Decoder) (packet : Packet) (blank : Picture b.Store)
  | drainDecoder (context : b.Decoder) (blank : Picture b.Store)
  | encode (context : b.Encoder) (picture : Picture b.Store)
  | drainEncoder (context : b.Encoder)
  | convert (context : b.Converter) (source blank : Picture b.Store) (answer : Converted b)
  | fresh

/-- An engine that answers as `e` does and whose calls are recorded. -/
def Engine.observed (e : Engine b σ) : Engine b (List (EngineCall b) × σ) :=
  { findDecoder := fun l => (e.findDecoder l).recorded fun _ => .findDecoder l
    findEncoder := fun l => (e.findEncoder l).recorded fun _ => .findEncoder l
    implementationName := e.implementationName
    openDecoder := fun i track => (e.openDecoder i track).recorded fun _ => .openDecoder i track
    openEncoder := fun i settings =>
      (e.openEncoder i settings).recorded fun _ => .openEncoder i settings
    openConverter := fun geometry target =>
      (e.openConverter geometry target).recorded (.openConverter geometry target)
    pixelFormats := fun c => (e.pixelFormats c).recorded fun _ => .pixelFormats c
    decode := fun c packet blank =>
      (e.decode c packet blank).recorded fun _ => .decode c packet blank
    drainDecoder := fun c blank => (e.drainDecoder c blank).recorded fun _ => .drainDecoder c blank
    encode := fun c picture => (e.encode c picture).recorded fun _ => .encode c picture
    drainEncoder := fun c => (e.drainEncoder c).recorded fun _ => .drainEncoder c
    convert := fun c source blank => (e.convert c source blank).recorded (.convert c source blank)
    fresh := e.fresh.recorded fun _ => .fresh
    recycle := e.recycle }

/-- The conversion that a call asks for, and whether it was granted. -/
def EngineCall.opening? : EngineCall b → Option ((Geometry × PixelFormat) × Bool)
  | openConverter geometry target answer => some ((geometry, target), answer.isOk)
  | _ => none

/-- The conversions that were asked for, and whether they were granted. -/
def openings (calls : List (EngineCall b)) : List ((Geometry × PixelFormat) × Bool) :=
  calls.filterMap EngineCall.opening?

/-- What was asked for in two records is what was asked for in one after the other. -/
theorem openings_append (calls more : List (EngineCall b)) :
    openings (calls ++ more) = openings calls ++ openings more :=
  List.filterMap_append

/-- According to a record, a context was opened to convert from a geometry to a format, or is
    what a conversion has left of such a context. -/
inductive OpenedFor (geometry : Geometry) (target : PixelFormat) (calls : List (EngineCall b)) :
    b.Converter → Prop where
  | opened {context : b.Converter}
      (granted : .openConverter geometry target (.ok context) ∈ calls) :
      OpenedFor geometry target calls context
  | used {context : b.Converter} {source blank : Picture b.Store} {answer : Converted b}
      (before : OpenedFor geometry target calls context)
      (call : .convert context source blank answer ∈ calls) :
      OpenedFor geometry target calls answer.context

/-- What a context is good for stays. -/
theorem OpenedFor.mono {geometry : Geometry} {target : PixelFormat}
    {calls calls' : List (EngineCall b)} {context : b.Converter}
    (h : OpenedFor geometry target calls context) (hsub : calls ⊆ calls') :
    OpenedFor geometry target calls' context := by
  induction h with
  | opened granted => exact .opened (hsub granted)
  | used before call ih => exact .used ih (hsub call)

/-- Whatever a context is good for was granted. -/
theorem OpenedFor.granted {geometry : Geometry} {target : PixelFormat}
    {calls : List (EngineCall b)} {context : b.Converter}
    (h : OpenedFor geometry target calls context) :
    ((geometry, target), true) ∈ openings calls := by
  induction h with
  | opened granted => exact List.mem_filterMap.mpr ⟨_, granted, rfl⟩
  | used before call ih => exact ih

/-- The geometry that a frame has to be converted from to be in the target format. Frames that
    are in that format already and frames without pictures want no conversion. -/
def RawFrame.wants {Store : Type} (target : PixelFormat) (f : RawFrame Store) : Option Geometry :=
  f.picture.geometry?.filter (·.format ≠ target)

/-- The geometry that the last frame wanted that wanted one. -/
def latestWanted {Store : Type} (target : PixelFormat) (frames : List (RawFrame Store)) :
    Option Geometry :=
  (frames.filterMap (·.wants target)).getLast?

theorem latestWanted_of_none {Store : Type} {target : PixelFormat} {frame : RawFrame Store}
    (frames : List (RawFrame Store)) (h : frame.wants target = none) :
    latestWanted target (frames ++ [frame]) = latestWanted target frames := by
  simp [latestWanted, List.filterMap_append, h]

theorem latestWanted_of_some {Store : Type} {target : PixelFormat} {frame : RawFrame Store}
    {geometry : Geometry} (frames : List (RawFrame Store))
    (h : frame.wants target = some geometry) :
    latestWanted target (frames ++ [frame]) = some geometry := by
  simp [latestWanted, List.filterMap_append, h]

/-- The geometry that a stage is set up for, or was refused. -/
def Conversion.geometry? : Conversion b → Option Geometry
  | .idle => none
  | .ready _ geometry => some geometry
  | .refused geometry => some geometry

/-- What a stage is set up for when the engine has answered. -/
def Conversion.ofAnswer (geometry : Geometry) : Except Cause b.Converter → Conversion b
  | .ok context => .ready context geometry
  | .error _ => .refused geometry

/-- What taking a picture from a pool asks for: a new picture, if any. -/
theorem Pool.obtain_observed (e : Engine b σ) (pool : Pool (Picture b.Store)) :
    Observes (pool.obtain e.observed.fresh e.observed.recycle) (pool.obtain e.fresh e.recycle)
      fun more obtained => (∀ call ∈ more, call = .fresh)
        ∧ ∃ w, obtained = (pool.obtain e.fresh e.recycle w).value := by
  intro record w
  cases hidle : pool.idle with
  | nil =>
      refine ⟨[.fresh], ?_, List.forall_mem_singleton.mpr rfl, w, rfl⟩
      simp only [Pool.obtain, hidle]
      rfl
  | cons used rest =>
      refine ⟨[], ?_, List.forall_mem_nil _, w, rfl⟩
      simp only [Pool.obtain, hidle, List.append_nil]
      rfl

/-- How a stage is set up for a geometry. -/
inductive Prepared (s : ConvertStage b) (geometry : Geometry) :
    List (EngineCall b) → Conversion b → Prop where
  /-- It is already, or the geometry was refused already. -/
  | atHand (same : s.conversion.geometry? = some geometry) :
      Prepared s geometry [] s.conversion
  /-- The engine was asked. -/
  | asked (other : s.conversion.geometry? ≠ some geometry) (answer : Except Cause b.Converter) :
      Prepared s geometry [.openConverter geometry s.target answer] (.ofAnswer geometry answer)

/-- Whatever a stage is set up for is meant for the geometry that it was prepared for. -/
theorem Prepared.geometry?_eq {s : ConvertStage b} {geometry : Geometry}
    {more : List (EngineCall b)} {conversion : Conversion b}
    (h : Prepared s geometry more conversion) : conversion.geometry? = some geometry := by
  cases h with
  | atHand same => exact same
  | asked other answer => cases answer <;> rfl

/-- What a stage is left with when the engine has converted a picture. -/
def ConvertStage.finish (frame : RawFrame b.Store) (geometry : Geometry)
    (pool : Pool (Picture b.Store)) (answer : Converted b) (s : ConvertStage b) :
    Option (RawFrame b.Store) × ConvertStage b :=
  let s := { s with conversion := .ready answer.context geometry }
  match answer.outcome with
  | .ok _ =>
    (some ⟨{ answer.picture with pts := frame.picture.pts, dts := frame.picture.dts },
      frame.source⟩, { s with pool })
  | .error _ => (none, { s with pool := pool.restore answer.picture })

/-- What becomes of a frame: the calls made for it, and what the stage yields and is left
    with. -/
inductive Converting (e : Engine b σ) (frame : RawFrame b.Store) (s : ConvertStage b) :
    List (EngineCall b) → Option (RawFrame b.Store) × ConvertStage b → Prop where
  /-- Nothing has to be done. -/
  | needless (unwanted : frame.wants s.target = none) : Converting e frame s [] (none, s)
  /-- There is no conversion for its geometry. -/
  | refused {geometry : Geometry} {more : List (EngineCall b)}
      (wanted : frame.wants s.target = some geometry)
      (prepared : Prepared s geometry more (.refused geometry)) :
      Converting e frame s more (none, { s with conversion := .refused geometry })
  /-- The engine was given the picture and another one from the pool. -/
  | ran {geometry : Geometry} {more made : List (EngineCall b)} {context : b.Converter}
      {blank : Picture b.Store} {pool : Pool (Picture b.Store)}
      (wanted : frame.wants s.target = some geometry)
      (prepared : Prepared s geometry more (.ready context geometry))
      (fresh : ∀ call ∈ made, call = .fresh)
      (obtained : ∃ w, (s.pool.obtain e.fresh e.recycle w).value = (blank, pool))
      (answer : Converted b) :
      Converting e frame s (more ++ made ++ [.convert context frame.picture blank answer])
        (s.finish frame geometry pool answer)

namespace ConvertStage

/-- Opening a conversion asks for it once, and the stage is set up as the answer says. -/
theorem openConversion_observed (e : Engine b σ) (geometry : Geometry) (target : PixelFormat) :
    Observes (openConversion e.observed geometry target) (openConversion e geometry target)
      fun more conversion => ∃ answer,
        more = [.openConverter geometry target answer]
          ∧ conversion = .ofAnswer geometry answer := by
  unfold openConversion
  refine .bind_recorded fun w => ?_
  cases (e.openConverter geometry target w).value with
  | ok context => exact .bind_note _ (.pure ⟨.ok context, rfl, rfl⟩)
  | error cause => exact .bind_note _ (.pure ⟨.error cause, rfl, rfl⟩)

/-- A stage is set up for a geometry in one of two ways. -/
theorem prepare_observed (e : Engine b σ) (geometry : Geometry) (s : ConvertStage b) :
    Observes (s.prepare e.observed geometry) (s.prepare e geometry) (Prepared s geometry) := by
  -- The two ways of `Prepared`: the engine is asked, or what is at hand will do.
  have hopen (hother : s.conversion.geometry? ≠ some geometry) :
      Observes (openConversion e.observed geometry s.target) (openConversion e geometry s.target)
        (Prepared s geometry) := by
    refine (openConversion_observed e geometry s.target).mono ?_
    rintro _ _ ⟨answer, rfl, rfl⟩
    exact .asked hother answer
  have hhand (hsame : s.conversion.geometry? = some geometry) :
      Observes (pure s.conversion : Act (List (EngineCall b) × σ) _) (pure s.conversion : Act σ _)
        (Prepared s geometry) := .pure (.atHand hsame)
  unfold prepare
  -- Only a stage that loses a context on the way takes a note of that.
  rcases hconversion : s.conversion with _ | ⟨context, current⟩ | current
  · exact hopen (by simp [hconversion, Conversion.geometry?])
  · by_cases hsame : current = geometry
    · simp only [if_pos hsame]
      rw [← hconversion]
      exact hhand (by rw [hconversion, hsame]; rfl)
    · simp only [if_neg hsame]
      refine .bind_note _ (hopen ?_)
      simpa [hconversion, Conversion.geometry?] using hsame
  · by_cases hsame : current = geometry
    · simp only [if_pos hsame]
      rw [← hconversion]
      exact hhand (by rw [hconversion, hsame]; rfl)
    · simp only [if_neg hsame]
      refine hopen ?_
      simpa [hconversion, Conversion.geometry?] using hsame

/-- What a stage asks for when a frame comes in, and what becomes of it. -/
theorem convert_observed (e : Engine b σ) (frame : RawFrame b.Store) (s : ConvertStage b) :
    Observes (s.convert e.observed frame) (s.convert e frame) (Converting e frame s) := by
  unfold convert
  cases hgeometry : frame.picture.geometry? with
  | none => exact .pure (.needless (by rw [RawFrame.wants, hgeometry]; rfl))
  | some geometry =>
      by_cases hsame : geometry.format = s.target
      · simp only [if_pos hsame]
        exact .pure (.needless (by simp [RawFrame.wants, hgeometry, hsame]))
      · simp only [if_neg hsame]
        have hwanted : frame.wants s.target = some geometry := by
          simp [RawFrame.wants, hgeometry, hsame]
        refine (prepare_observed e geometry s).bind fun more conversion hprepared => ?_
        have hcurrent := hprepared.geometry?_eq
        cases conversion with
        | idle => cases hcurrent
        | refused current =>
            cases hcurrent
            refine .pure ?_
            rw [List.append_nil]
            exact .refused hwanted hprepared
        | ready context current =>
            cases hcurrent
            refine (Pool.obtain_observed e s.pool).bind ?_
            rintro made ⟨blank, pool⟩ ⟨hfresh, w, hobtained⟩
            refine .bind_recorded fun w' => ?_
            -- Whether it succeeds or not, the conversion was run, and the answer decides what is
            -- left.
            have hran := Converting.ran hwanted hprepared hfresh ⟨w, hobtained.symm⟩
              (e.convert context frame.picture blank w').value
            rcases hanswer : (e.convert context frame.picture blank w').value with
              ⟨cause | _, picture, after⟩
            · rw [hanswer, List.append_assoc] at hran
              exact .bind_note _ (.pure hran)
            · rw [hanswer, List.append_assoc] at hran
              exact .pure hran

end ConvertStage

/-- What a stage with the given target must have asked for last to be set up as it is. -/
def Conversion.opening? (target : PixelFormat) :
    Conversion b → Option ((Geometry × PixelFormat) × Bool)
  | .idle => none
  | .ready _ geometry => some ((geometry, target), true)
  | .refused geometry => some ((geometry, target), false)

/-- A stage goes with the frames that have come in and with the record of the calls. -/
structure ConvertStage.Fits (target : PixelFormat) (frames : List (RawFrame b.Store))
    (calls : List (EngineCall b)) (s : ConvertStage b) : Prop where
  target_eq : s.target = target
  /-- The geometry that it remembers was wanted last. -/
  latest : s.conversion.geometry? = latestWanted target frames
  /-- The engine was last asked for a conversion from it, and has granted or refused that one. -/
  answered : s.conversion.opening? target = (openings calls).getLast?
  /-- The context at hand is good for that geometry. -/
  openedFor : ∀ context geometry, s.conversion = .ready context geometry →
    OpenedFor geometry target calls context

namespace ConvertStage.Fits

variable {target : PixelFormat} {frames : List (RawFrame b.Store)} {calls : List (EngineCall b)}
  {s : ConvertStage b}

theorem build (target : PixelFormat) (poolSize : Nat) :
    (ConvertStage.build target poolSize : ConvertStage b).Fits target [] [] :=
  ⟨rfl, rfl, rfl, nofun⟩

/-- The pool does not matter. -/
theorem release (h : s.Fits target frames calls) (picture : Picture b.Store) :
    (s.release picture).Fits target frames calls :=
  ⟨h.target_eq, h.latest, h.answered, h.openedFor⟩

/-- Other calls on the engine do not matter either. -/
theorem append (h : s.Fits target frames calls) {more : List (EngineCall b)}
    (hmore : openings more = []) : s.Fits target frames (calls ++ more) where
  target_eq := h.target_eq
  latest := h.latest
  answered := by
    rw [openings_append, hmore, List.append_nil]
    exact h.answered
  openedFor := fun context geometry hready =>
    (h.openedFor context geometry hready).mono (List.subset_append_left calls more)

end ConvertStage.Fits

/-- A call to convert a picture. -/
def EngineCall.Runs : EngineCall b → Prop
  | convert .. => True
  | _ => False

/-- Neither making a picture nor converting one counts as an opening. -/
theorem openings_ran {made : List (EngineCall b)} (asked : List (EngineCall b))
    (fresh : ∀ call ∈ made, call = .fresh) (context : b.Converter) (source blank : Picture b.Store)
    (answer : Converted b) :
    openings (asked ++ made ++ [.convert context source blank answer]) = openings asked := by
  have hmade : openings made = [] :=
    List.filterMap_eq_nil_iff.mpr fun call hcall => fresh call hcall ▸ rfl
  rw [openings_append, openings_append, hmade, List.append_nil]
  exact List.append_nil _

namespace Prepared

variable {target : PixelFormat} {frames : List (RawFrame b.Store)} {frame : RawFrame b.Store}
  {calls more : List (EngineCall b)} {s : ConvertStage b} {geometry : Geometry}
  {conversion : Conversion b}

/-- Setting a stage up runs no conversion. -/
theorem not_runs (h : Prepared s geometry more conversion) : ∀ call ∈ more, ¬ call.Runs := by
  cases h with
  | atHand same => exact List.forall_mem_nil _
  | asked other answer => exact List.forall_mem_singleton.mpr id

/-- If a conversion is run after that, then at the very end. -/
theorem runs_last (h : Prepared s geometry more conversion) {made : List (EngineCall b)}
    (fresh : ∀ call ∈ made, call = .fresh) {before after : List (EngineCall b)}
    {last call : EngineCall b} (hsplit : more ++ made ++ [last] = before ++ call :: after)
    (hruns : call.Runs) : before = more ++ made ∧ call = last := by
  have hquiet : ∀ call ∈ more ++ made, ¬ call.Runs := by
    refine List.forall_mem_append.mpr ⟨h.not_runs, fun call hmem => ?_⟩
    rw [fresh call hmem]
    exact id
  -- With anything behind it, the call would be one of those that set the stage up.
  rcases List.eq_nil_or_concat after with rfl | ⟨rest, other, rfl⟩
  · rcases List.append_inj' hsplit rfl with ⟨hbefore, hlast⟩
    exact ⟨hbefore.symm, (List.singleton_inj.mp hlast).symm⟩
  · rw [List.concat_eq_append, ← List.cons_append, ← List.append_assoc] at hsplit
    rcases List.append_inj' hsplit rfl with ⟨hbefore, -⟩
    exact absurd hruns (hquiet call (by simp [hbefore]))

/-- The engine is asked unless the geometry was the last one wanted, whatever it said then. -/
theorem openings_eq (h : Prepared s geometry more conversion) (hs : s.Fits target frames calls) :
    if some geometry = latestWanted target frames then openings more = []
    else ∃ granted, openings more = [((geometry, target), granted)] := by
  rw [← hs.latest, ← hs.target_eq]
  cases h with
  | atHand same =>
      rw [if_pos same.symm]
      rfl
  | asked other answer =>
      rw [if_neg (Ne.symm other)]
      exact ⟨answer.isOk, rfl⟩

/-- What setting a stage up preserves. -/
theorem fits (h : Prepared s geometry more conversion) (hs : s.Fits target frames calls)
    (hwanted : frame.wants target = some geometry) :
    ({ s with conversion } : ConvertStage b).Fits target (frames ++ [frame]) (calls ++ more) where
  target_eq := hs.target_eq
  latest := by
    rw [latestWanted_of_some frames hwanted]
    exact h.geometry?_eq
  answered := by
    cases h with
    -- A conversion at hand asks for nothing, so the record stays.
    | atHand same =>
        rw [List.append_nil]
        exact hs.answered
    | asked other answer =>
        rw [hs.target_eq, openings_append]
        cases answer <;> exact List.getLast?_concat.symm
  openedFor := by
    intro context current hready
    cases h with
    | atHand same =>
        rw [List.append_nil]
        exact hs.openedFor context current hready
    | asked other answer =>
        -- The record ends with the opening, and a context that is set up is the one it gave.
        cases answer with
        | error cause => cases hready
        | ok opened =>
            cases hready
            refine .opened (List.mem_append_right _ ?_)
            rw [hs.target_eq]
            exact List.mem_singleton_self _

end Prepared

/-- A frame passes as it is if the conversion has failed. -/
theorem ConvertStage.finish_fst (frame : RawFrame b.Store) (geometry : Geometry)
    (pool : Pool (Picture b.Store)) (answer : Converted b) (s : ConvertStage b) :
    (s.finish frame geometry pool answer).1 = none ↔ answer.outcome.isOk = false := by
  unfold finish
  cases answer.outcome <;> simp [Except.isOk, Except.toBool]

/-- The context that the engine gives back is kept, whether it has failed or not. -/
theorem ConvertStage.finish_snd (frame : RawFrame b.Store) (geometry : Geometry)
    (pool : Pool (Picture b.Store)) (answer : Converted b) (s : ConvertStage b) :
    (s.finish frame geometry pool answer).2.target = s.target
      ∧ (s.finish frame geometry pool answer).2.conversion = .ready answer.context geometry := by
  unfold finish
  cases answer.outcome <;> exact ⟨rfl, rfl⟩

namespace Converting

variable {e : Engine b σ} {target : PixelFormat} {frames : List (RawFrame b.Store)}
  {frame : RawFrame b.Store} {calls more : List (EngineCall b)} {s : ConvertStage b}
  {r : Option (RawFrame b.Store) × ConvertStage b}

/-- What a frame preserves. -/
theorem fits (h : Converting e frame s more r) (hs : s.Fits target frames calls) :
    r.2.Fits target (frames ++ [frame]) (calls ++ more) := by
  have htarget := hs.target_eq
  cases h with
  | needless unwanted =>
      rw [htarget] at unwanted
      refine ⟨htarget, ?_, ?_, ?_⟩
      · rw [latestWanted_of_none frames unwanted]
        exact hs.latest
      · rw [List.append_nil]
        exact hs.answered
      · rw [List.append_nil]
        exact hs.openedFor
  | refused wanted prepared => exact prepared.fits hs (htarget ▸ wanted)
  | @ran geometry asked made context blank pool wanted prepared fresh obtained answer =>
      have hprepared := prepared.fits hs (htarget ▸ wanted)
      -- Running the conversion replaces the context, and nothing else that the record speaks of.
      rcases ConvertStage.finish_snd frame geometry pool answer s with ⟨hsame, hready⟩
      refine ⟨hsame.trans htarget, ?_, ?_, ?_⟩
      · rw [hready]
        exact hprepared.latest
      · rw [hready, openings_append, openings_ran asked fresh, ← openings_append]
        exact hprepared.answered
      · intro after current hafter
        rw [hready] at hafter
        cases hafter
        -- The context that is left comes from the one that was run, which was opened for this.
        have hopened := hprepared.openedFor context geometry rfl
        have hcall : .convert context frame.picture blank answer
            ∈ calls ++ (asked ++ made ++ [.convert context frame.picture blank answer]) := by simp
        refine .used (hopened.mono ?_) hcall
        rw [List.append_assoc asked, ← List.append_assoc calls]
        exact List.subset_append_left _ _

/-- The engine is asked for a conversion if the frame wants one, and another one than the last
    frame that wanted one. -/
theorem openings_eq (h : Converting e frame s more r) (hs : s.Fits target frames calls) :
    if frame.wants target = none ∨ frame.wants target = latestWanted target frames then
      openings more = []
    else ∃ geometry granted,
      frame.wants target = some geometry ∧ openings more = [((geometry, target), granted)] := by
  have hprepared {geometry : Geometry} {asked : List (EngineCall b)} {conversion : Conversion b}
      (hwanted : frame.wants s.target = some geometry)
      (h : Prepared s geometry asked conversion) :
      if frame.wants target = none ∨ frame.wants target = latestWanted target frames then
        openings asked = []
      else ∃ geometry granted,
        frame.wants target = some geometry ∧ openings asked = [((geometry, target), granted)] := by
    have hasked := h.openings_eq hs
    rw [hs.target_eq] at hwanted
    rw [hwanted]
    simpa using hasked
  cases h with
  | needless unwanted =>
      rw [hs.target_eq] at unwanted
      rw [if_pos (.inl unwanted)]
      rfl
  | refused wanted prepared => exact hprepared wanted prepared
  | @ran geometry asked made context blank pool wanted prepared fresh obtained answer =>
      -- Of all these calls only those that set the stage up count.
      rw [openings_ran asked fresh]
      exact hprepared wanted prepared

/-- The engine is only ever given the picture of the frame, with a context that was opened for
    its geometry. -/
theorem openedFor (h : Converting e frame s more r) (hs : s.Fits target frames calls)
    {before after : List (EngineCall b)} {context : b.Converter} {source blank : Picture b.Store}
    {answer : Converted b}
    (hmore : more = before ++ .convert context source blank answer :: after) :
    source = frame.picture ∧ ∃ geometry, frame.wants target = some geometry
      ∧ OpenedFor geometry target (calls ++ before) context := by
  have hcall : .convert context source blank answer ∈ more := by simp [hmore]
  cases h with
  | needless unwanted => cases hcall
  | refused wanted prepared => exact absurd trivial (prepared.not_runs _ hcall)
  | @ran geometry asked made current out pool wanted prepared fresh obtained last =>
      -- The frame runs one conversion only, after everything that set it up.
      rcases prepared.runs_last fresh hmore trivial with ⟨rfl, hlast⟩
      cases hlast
      have hopened := (prepared.fits hs (hs.target_eq ▸ wanted)).openedFor context geometry rfl
      refine ⟨rfl, geometry, hs.target_eq ▸ wanted, hopened.mono ?_⟩
      rw [← List.append_assoc]
      exact List.subset_append_left _ _

/-- A frame passes as it is if it wants no conversion, or its geometry was refused, or running
    the conversion failed. -/
theorem none_iff (h : Converting e frame s more r) (hs : s.Fits target frames calls) :
    r.1 = none ↔ frame.wants target = none
      ∨ (∃ geometry, frame.wants target = some geometry
        ∧ (openings (calls ++ more)).getLast? = some ((geometry, target), false))
      ∨ ∃ context blank answer, .convert context frame.picture blank answer ∈ more
        ∧ answer.outcome.isOk = false := by
  have hfits := h.fits hs
  cases h with
  | needless unwanted => simp [← hs.target_eq, unwanted]
  | @refused geometry more wanted prepared =>
      refine iff_of_true rfl (.inr (.inl ⟨geometry, hs.target_eq ▸ wanted, ?_⟩))
      exact hfits.answered.symm
  | @ran geometry asked made context blank pool wanted prepared fresh obtained answer =>
      rw [ConvertStage.finish_fst]
      refine ⟨fun hfailed => .inr (.inr ⟨context, blank, answer, by simp, hfailed⟩), ?_⟩
      rintro (hunwanted | ⟨current, -, hrefused⟩ | ⟨current, out, last, hcall, hfailed⟩)
      · rw [← hs.target_eq, wanted] at hunwanted
        cases hunwanted
      · -- The stage would hold a refusal, but it holds a context.
        have hready := (ConvertStage.finish_snd frame geometry pool answer s).2
        have hanswered := hfits.answered
        rw [hready, hrefused] at hanswered
        cases hanswered
      · -- There is one such call among them, and it is the last.
        rcases List.append_of_mem hcall with ⟨before, after, hsplit⟩
        rcases prepared.runs_last fresh hsplit trivial with ⟨-, hlast⟩
        cases hlast
        exact hfailed

/-- A frame that is converted has the times and the origin that it had, and its picture is one
    of the stage's own pool. -/
theorem some_eq (h : Converting e frame s more r) {out : RawFrame b.Store} (hout : r.1 = some out) :
    ∃ context blank answer, .convert context frame.picture blank answer ∈ more
      ∧ answer.outcome.isOk = true
      ∧ (∃ w, (s.pool.obtain e.fresh e.recycle w).value = (blank, r.2.pool))
      ∧ out.picture
        = { answer.picture with pts := frame.picture.pts, dts := frame.picture.dts }
      ∧ out.source = frame.source := by
  -- Only a conversion that was run yields another frame.
  cases h with
  | needless unwanted => cases hout
  | refused wanted prepared => cases hout
  | @ran geometry asked made context blank pool wanted prepared fresh obtained answer =>
      rcases answer with ⟨cause | _, picture, after⟩
      · cases hout
      · cases hout
        exact ⟨context, blank, ⟨.ok (), picture, after⟩, by simp, rfl, obtained, rfl, rfl⟩

end Converting

namespace ConvertStage

/-- A convert stage may have been through these frames, with these calls on the engine. Between
    the frames the world may change, and pictures come back. -/
inductive Reached (e : Engine b σ) (target : PixelFormat) (poolSize : Nat) :
    List (RawFrame b.Store) → List (EngineCall b) → ConvertStage b → Prop where
  | built : Reached e target poolSize [] [] (.build target poolSize)
  | convert {frames : List (RawFrame b.Store)} {calls : List (EngineCall b)} {s : ConvertStage b}
      (before : Reached e target poolSize frames calls s) (frame : RawFrame b.Store) (w : σ) :
      Reached e target poolSize (frames ++ [frame]) (s.convert e.observed frame (calls, w)).world.1
        (s.convert e.observed frame (calls, w)).value.2
  | release {frames : List (RawFrame b.Store)} {calls : List (EngineCall b)} {s : ConvertStage b}
      (before : Reached e target poolSize frames calls s) (picture : Picture b.Store) :
      Reached e target poolSize frames calls (s.release picture)

variable {e : Engine b σ} {target : PixelFormat} {poolSize : Nat}
  {frames : List (RawFrame b.Store)} {calls : List (EngineCall b)} {s : ConvertStage b}

/-- What a whole sequence of frames preserves. -/
theorem Reached.fits (h : Reached e target poolSize frames calls s) :
    s.Fits target frames calls := by
  induction h with
  | built => exact Fits.build target poolSize
  | @convert frames calls s before frame w ih =>
      -- The record grows by what this frame asks for, and by nothing else.
      rcases convert_observed e frame s calls w with ⟨more, heq, hconverting⟩
      rw [heq]
      exact hconverting.fits ih
  | release before picture ih => exact ih.release picture

/-- What a stage asks for and yields when a frame comes in, after any sequence of frames and
    whatever the engine has answered:

    1. It asks for a conversion if the frame wants one, and not the one that the last frame
       wanted that wanted one. It asks for exactly the one that the frame wants.
    2. The engine is given the picture of the frame, with a context that was opened for the
       geometry of that very frame.
    3. The frame passes as it is, or it has another picture, from the stage's own pool. It
       has the times and the origin that it had.
    4. It passes as it is if it wants no conversion, or its geometry was refused, or the
       conversion failed.
    5. If it wants no conversion, nothing happens at all. -/
theorem convert_after (h : Reached e target poolSize frames calls s) (frame : RawFrame b.Store) :
    Observes (s.convert e.observed frame) (s.convert e frame) fun more r =>
      (if frame.wants target = none ∨ frame.wants target = latestWanted target frames then
          openings more = []
        else ∃ geometry granted,
          frame.wants target = some geometry ∧ openings more = [((geometry, target), granted)])
        ∧ (∀ before context source blank answer after,
          more = before ++ .convert context source blank answer :: after →
            source = frame.picture ∧ ∃ geometry, frame.wants target = some geometry
              ∧ OpenedFor geometry target (calls ++ before) context)
        ∧ (∀ out, r.1 = some out →
          ∃ context blank answer, .convert context frame.picture blank answer ∈ more
            ∧ answer.outcome.isOk = true
            ∧ (∃ w, (s.pool.obtain e.fresh e.recycle w).value = (blank, r.2.pool))
            ∧ out.picture
              = { answer.picture with pts := frame.picture.pts, dts := frame.picture.dts }
            ∧ out.source = frame.source)
        ∧ (r.1 = none ↔ frame.wants target = none
          ∨ (∃ geometry, frame.wants target = some geometry
            ∧ (openings (calls ++ more)).getLast? = some ((geometry, target), false))
          ∨ ∃ context blank answer, .convert context frame.picture blank answer ∈ more
            ∧ answer.outcome.isOk = false)
        ∧ (frame.wants target = none → more = [] ∧ r = (none, s)) := by
  have hs := h.fits
  refine (convert_observed e frame s).mono fun more r hconverting => ?_
  refine ⟨hconverting.openings_eq hs,
    fun before context source blank answer after hmore => hconverting.openedFor hs hmore,
    fun out hout => hconverting.some_eq hout, hconverting.none_iff hs, fun hunwanted => ?_⟩
  rw [← hs.target_eq] at hunwanted
  -- The other two ways are for frames that want a conversion.
  cases hconverting with
  | needless unwanted => exact ⟨rfl, rfl⟩
  | refused wanted prepared => rw [hunwanted] at wanted; cases wanted
  | ran wanted prepared fresh obtained answer => rw [hunwanted] at wanted; cases wanted

/-- A picture of another size comes after one that was converted. A conversion is asked for
    anew, and the context of the first one is not used for the second. -/
theorem convert_after_resized :
    let e := Loopback.engine {}
    let frame (width height : UInt32) : RawFrame Bytes :=
      ⟨{ Picture.blank [1] with pixel := some .nv12, width, height, pts := some 40 }, some .h264⟩
    let first := (build .preferred 1 : ConvertStage Loopback.backend).convert e.observed
      (frame 640 480) ([], {})
    let second := first.value.2.convert e.observed (frame 320 240) first.world
    ∃ more, second.world.1 = first.world.1 ++ more
      ∧ (∃ granted, openings more = [((⟨.nv12, 320, 240⟩, .preferred), granted)])
      ∧ second.value.1.map (·.picture.pts) = some (some 40) := by
  intro e frame first second
  have hbuilt : Reached e .preferred 1 [] [] (build .preferred 1) := .built
  have hfirst := hbuilt.convert (frame 640 480) {}
  rcases convert_after hfirst (frame 320 240) first.world.1 first.world.2 with
    ⟨more, heq, hopenings, -⟩
  -- The frame wants a conversion, from a geometry that differs in its size.
  have hnew : ¬ ((frame 320 240).wants .preferred = none
      ∨ (frame 320 240).wants .preferred = latestWanted .preferred ([] ++ [frame 640 480])) := by
    decide
  rw [if_neg hnew] at hopenings
  rcases hopenings with ⟨geometry, granted, hwanted, hasked⟩
  cases hwanted
  change second = _ at heq
  refine ⟨more, by rw [heq], ⟨granted, hasked⟩, rfl⟩

end ConvertStage

end Recode
