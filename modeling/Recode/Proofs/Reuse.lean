import Recode.Proofs.Separation

/-!
# The use of a picture leaves no trace

Stages take their pictures from pools, so most frames are written to a picture that held
another frame before. Nothing of that frame may show in the later one. All that the
pipeline does about it is to reset a picture before it offers it again, and what that
means is up to the engine. A decoder may write some fields only, or write some and then
fail, so whatever was left by the reset shines through.

Here an engine is trusted in one point: it cannot tell a picture that it has reset from a
new one. What an engine cannot tell apart is a relation, a `Likeness`. Two stores can be
alike without being equal, as a buffer that was emptied still has its address, and then
contexts that have seen them are merely alike, too.

From this it follows that pools do not show at all. A transcoder and one that lacks the
pools, and that otherwise differs in nothing but what cannot be told apart, do the same to
the world and report the same. The second offers nothing but new pictures. The lemmas
follow the definitions, from a picture that is obtained to a run.

## Main definitions

* `Act.Twins`: Two actions that do the same to every world.
* `Likeness`: What nobody can tell apart.
* `Engine.Respects`: An engine cannot tell apart what is alike, and a picture that was
  reset is like a new one.
* `Transcoder.unpooled`: The transcoder without its pools.
* `DecodeStage.Afresh`, `EncodeStage.Afresh`, `Chain.Afresh`, `Transcoder.Afresh`: The same
  without pools, apart from what nobody can tell apart.
* `Transcoder.runAfresh`: A run in which every picture that is offered is new.

## Theorems

* `Act.Twins.bind`: Actions in a row.
* `Engine.respects_equality`: An engine that resets pictures to what a new one is.
* `Engine.Respects.obtain_twins`: Whatever the pool, what is obtained is like a new picture.
* `DecodeStage.input_afresh`, `ConvertStage.convert_afresh`, `EncodeStage.input_afresh`,
  `EncodeStage.flush_afresh`, `DecodeStage.flush_afresh`: The stages.
* `Transcoder.perform_afresh`: One operation.
* `Transcoder.run_eq_runAfresh`: No run shows that pictures are reused.
-/

namespace Recode

namespace Act

variable {σ ρ α β γ δ : Type}

/-- Two actions that do the same to every world. The values they yield are the same in
    the given sense. -/
def Twins (same : α → β → Prop) (x : Act σ α) (y : Act σ β) : Prop :=
  ∀ w, same (x w).value (y w).value ∧ (x w).world = (y w).world

namespace Twins

variable {same : α → β → Prop} {x : Act σ α} {y : Act σ β} {f : α → Act σ γ} {g : β → Act σ δ}
  {last : γ → δ → Prop}

theorem mono {same' : α → β → Prop} (h : Twins same x y) (hsame : ∀ a a', same a a' → same' a a') :
    Twins same' x y := fun w => ⟨hsame _ _ (h w).1, (h w).2⟩

theorem pure {a : α} {a' : β} (h : same a a') :
    Twins same (Pure.pure a : Act σ α) (Pure.pure a') := fun _ => ⟨h, rfl⟩

/-- Twins go on as twins if what follows depends on no more than what is the same. -/
theorem bind (hx : Twins same x y) (hf : ∀ a a', same a a' → Twins last (f a) (g a')) :
    Twins last (x >>= f) (y >>= g) := by
  intro w
  rcases hx w with ⟨hvalue, hworld⟩
  -- Both go on from the same world.
  simp only [bind_value, bind_world]
  rw [← hworld]
  exact hf _ _ hvalue _

/-- Both begin with the same action. -/
theorem bind_self (x : Act σ α) {g : α → Act σ δ} (hf : ∀ a, Twins last (f a) (g a)) :
    Twins last (x >>= f) (x >>= g) :=
  fun w => hf (x w).value (x w).world

theorem bind_note (n n' : Note) {f : Unit → Act σ γ} {g : Unit → Act σ δ}
    (hf : Twins last (f ()) (g ())) : Twins last (Act.note n >>= f) (Act.note n' >>= g) := hf

theorem onSecond (h : Twins same x y) :
    Twins same (x.onSecond : Act (ρ × σ) α) (y.onSecond : Act (ρ × σ) β) :=
  fun w => ⟨(h w.2).1, congrArg (Prod.mk w.1) (h w.2).2⟩

end Twins

end Act

open Act

variable {b : Backend} {σ ρ : Type}

/-- What nobody can tell apart. -/
structure Likeness (b : Backend) where
  store : Setoid b.Store
  decoder : Setoid b.Decoder
  encoder : Setoid b.Encoder
  converter : Setoid b.Converter

namespace Likeness

/-- Only what is equal is alike. -/
def equality (b : Backend) : Likeness b := ⟨⊥, ⊥, ⊥, ⊥⟩

variable (r : Likeness b)

/-- Pictures are alike if their stores are. Everyone can read their headers. -/
def picture : Setoid (Picture b.Store) where
  r p p' := p.withStore () = p'.withStore () ∧ r.store p.store p'.store
  iseqv :=
    { refl := fun p => ⟨rfl, r.store.refl' p.store⟩
      symm := fun h => ⟨h.1.symm, r.store.symm' h.2⟩
      trans := fun h h' => ⟨h.1.trans h'.1, r.store.trans' h.2 h'.2⟩ }

/-- Frames of one origin whose pictures are alike. -/
def Frames (frame frame' : RawFrame b.Store) : Prop :=
  r.picture frame.picture frame'.picture ∧ frame.source = frame'.source

end Likeness

section

variable {r : Likeness b} {p p' : Picture b.Store}

theorem Likeness.geometry?_eq (h : r.picture p p') : p.geometry? = p'.geometry? :=
  congrArg (fun header : Picture Unit => header.geometry?) h.1

theorem Likeness.pts_eq (h : r.picture p p') : p.pts = p'.pts :=
  congrArg (fun header : Picture Unit => header.pts) h.1

theorem Likeness.dts_eq (h : r.picture p p') : p.dts = p'.dts :=
  congrArg (fun header : Picture Unit => header.dts) h.1

theorem Likeness.pixel_eq (h : r.picture p p') : p.pixel = p'.pixel :=
  congrArg (fun header : Picture Unit => header.pixel) h.1

/-- Pictures stay alike when they take the times of others that are alike. -/
theorem Likeness.setTimes {q q' : Picture b.Store} (h : r.picture p p') (htimes : r.picture q q') :
    r.picture { p with pts := q.pts, dts := q.dts } { p' with pts := q'.pts, dts := q'.dts } :=
  ⟨congrArg₂ (fun header times : Picture Unit =>
    { header with pts := times.pts, dts := times.dts }) h.1 htimes.1, h.2⟩

theorem Likeness.Frames.trackType_eq {frame frame' : RawFrame b.Store}
    (h : r.Frames frame frame') : frame.trackType = frame'.trackType := by
  unfold RawFrame.trackType
  rw [h.2, Likeness.pixel_eq h.1]

end

/-- The same came out, and the contexts left behind are alike. -/
inductive Pull.Alike {γ α : Type} {smaller : γ → γ → Prop} (same : γ → γ → Prop)
    {context context' : γ} : Pull smaller context α → Pull smaller context' α → Prop
  | more (item : α) {next next' : γ} {less : smaller next context}
      {less' : smaller next' context'} (h : same next next') :
      Alike same (.more item next less) (.more item next' less')
  | empty {next next' : γ} (h : same next next') : Alike same (.empty next) (.empty next')
  | failed (cause : Cause) {next next' : γ} (h : same next next') :
      Alike same (.failed cause next) (.failed cause next')

theorem Pull.Alike.refl {γ α : Type} {smaller : γ → γ → Prop} {same : γ → γ → Prop} {context : γ}
    (h : ∀ next, same next next) (pull : Pull smaller context α) : pull.Alike same pull := by
  cases pull with
  | more item next less => exact .more item (h next)
  | empty next => exact .empty (h next)
  | failed cause next => exact .failed cause (h next)

/-- An engine cannot tell apart what is alike, and what it yields is alike then. Of the
    pictures it is given to write to this is said only if they were filled. What becomes of
    them otherwise is left open. A picture that was reset is like a new one, and making a
    new one does nothing else. -/
structure Engine.Respects (r : Likeness b) (e : Engine b σ) : Prop where
  decode : ∀ context context' packet blank blank', r.decoder context context' →
    r.picture blank blank' →
    Twins (fun decoded decoded' => decoded.outcome = decoded'.outcome
        ∧ r.decoder decoded.context decoded'.context
        ∧ (decoded.outcome = .ok true → r.picture decoded.picture decoded'.picture))
      (e.decode context packet blank) (e.decode context' packet blank')
  drainDecoder : ∀ context context' blank blank', r.decoder context context' →
    r.picture blank blank' →
    Twins (fun drained drained' => drained.pull.Alike r.decoder drained'.pull
        ∧ (¬drained.pull.Stops → r.picture drained.picture drained'.picture))
      (e.drainDecoder context blank) (e.drainDecoder context' blank')
  encode : ∀ context context' picture picture', r.encoder context context' →
    r.picture picture picture' →
    Twins (fun encoded encoded' => encoded.outcome = encoded'.outcome
        ∧ r.encoder encoded.context encoded'.context)
      (e.encode context picture) (e.encode context' picture')
  drainEncoder : ∀ context context', r.encoder context context' →
    Twins (Pull.Alike r.encoder) (e.drainEncoder context) (e.drainEncoder context')
  convert : ∀ context context' source source' blank blank', r.converter context context' →
    r.picture source source' → r.picture blank blank' →
    Twins (fun converted converted' => converted.outcome = converted'.outcome
        ∧ r.converter converted.context converted'.context
        ∧ (converted.outcome = .ok () → r.picture converted.picture converted'.picture))
      (e.convert context source blank) (e.convert context' source' blank')
  recycle : ∀ used w, r.picture (e.recycle used) (e.fresh w).value
  fresh : ∀ w, (e.fresh w).world = w

namespace Engine

variable {r : Likeness b} {e : Engine b σ}

/-- In a larger world an engine cannot tell apart any more. -/
theorem Respects.onSecond (h : e.Respects r) : (e.onSecond (ρ := ρ)).Respects r :=
  { decode := fun context context' packet blank blank' hcontext hblank =>
      (h.decode context context' packet blank blank' hcontext hblank).onSecond
    drainDecoder := fun context context' blank blank' hcontext hblank =>
      (h.drainDecoder context context' blank blank' hcontext hblank).onSecond
    encode := fun context context' picture picture' hcontext hpicture =>
      (h.encode context context' picture picture' hcontext hpicture).onSecond
    drainEncoder := fun context context' hcontext =>
      (h.drainEncoder context context' hcontext).onSecond
    convert := fun context context' source source' blank blank' hcontext hsource hblank =>
      (h.convert context context' source source' blank blank' hcontext hsource hblank).onSecond
    recycle := fun used w => h.recycle used w.2
    fresh := fun w => congrArg (Prod.mk w.1) (h.fresh w.2) }

/-- An engine that resets a picture to what a new one is need not be trusted in
    anything else. -/
theorem respects_equality (hrecycle : ∀ used w, e.recycle used = (e.fresh w).value)
    (hfresh : ∀ w, (e.fresh w).world = w) : e.Respects (.equality b) := by
  have heq {p p' : Picture b.Store} (h : (Likeness.equality b).picture p p') : p = p' := by
    calc p = (p.withStore ()).withStore p.store := rfl
      _ = (p'.withStore ()).withStore p'.store := by rw [h.1, show p.store = p'.store from h.2]
      _ = p' := rfl
  -- Each call is compared with itself.
  refine
    { decode := ?_, drainDecoder := ?_, encode := ?_, drainEncoder := ?_, convert := ?_
      recycle := ?_, fresh := hfresh }
  · rintro context _ packet blank blank' ⟨⟩ hblank w
    cases heq hblank
    exact ⟨⟨rfl, rfl, fun _ => Setoid.refl' _ _⟩, rfl⟩
  · rintro context _ blank blank' ⟨⟩ hblank w
    cases heq hblank
    exact ⟨⟨.refl (fun _ => rfl) _, fun _ => Setoid.refl' _ _⟩, rfl⟩
  · rintro context _ picture picture' ⟨⟩ hpicture w
    cases heq hpicture
    exact ⟨⟨rfl, rfl⟩, rfl⟩
  · rintro context _ ⟨⟩ w
    exact ⟨.refl (fun _ => rfl) _, rfl⟩
  · rintro context _ source source' blank blank' ⟨⟩ hsource hblank w
    cases heq hsource
    cases heq hblank
    exact ⟨⟨rfl, rfl, fun _ => Setoid.refl' _ _⟩, rfl⟩
  · intro used w
    rw [hrecycle used w]

/-- An engine that resets pictures in another way. -/
def resetting (e : Engine b σ) (reset : Picture b.Store → Picture b.Store) : Engine b σ :=
  { e with recycle := reset }

/-- Whatever the pool, what is obtained is like a new picture, and nothing else happens.
    Without a pool it is a new picture, and there is no pool afterwards. -/
theorem Respects.obtain_twins (he : e.Respects r) (pool : Pool (Picture b.Store))
    (reset : Picture b.Store → Picture b.Store) :
    Twins (fun obtained obtained' => r.picture obtained.1 obtained'.1
        ∧ obtained'.2 = Pool.ofCapacity 0)
      (pool.obtain e.fresh e.recycle)
      ((Pool.ofCapacity 0).obtain (e.resetting reset).fresh (e.resetting reset).recycle) := by
  intro w
  unfold Pool.obtain
  -- From an empty pool a new picture is obtained on both sides.
  rcases pool.idle with _ | ⟨used, rest⟩
  · exact ⟨⟨r.picture.refl' _, rfl⟩, rfl⟩
  · exact ⟨⟨he.recycle used w, rfl⟩, (he.fresh w).symm⟩

end Engine

/-! ## Without pools -/

/-- The stage without its pool. -/
def DecodeStage.unpooled (s : DecodeStage b) : DecodeStage b := { s with pool := .ofCapacity 0 }

/-- The stage without its pool. -/
def ConvertStage.unpooled (s : ConvertStage b) : ConvertStage b := { s with pool := .ofCapacity 0 }

/-- The stage without the pool of its converter, and without one for any later converter. -/
def EncodeStage.unpooled (s : EncodeStage b) : EncodeStage b :=
  { s with converter := s.converter.map ConvertStage.unpooled, poolSize := 0 }

/-- The chain without its pools. -/
def Chain.unpooled (c : Chain b) : Chain b := ⟨c.decode.unpooled, c.encode.unpooled⟩

/-- The transcoder without its pools. -/
def Transcoder.unpooled (t : Transcoder b) : Transcoder b :=
  { t with lanes := ⟨t.lanes.audio.map Chain.unpooled, t.lanes.video.map Chain.unpooled⟩ }

/-- The same decode stage without its pool, apart from what nobody can tell apart. -/
def DecodeStage.Afresh (r : Likeness b) (s s' : DecodeStage b) : Prop :=
  ∃ context, r.decoder s.context context ∧ s' = { s with context, pool := .ofCapacity 0 }

/-- Set up for the same. -/
inductive Conversion.Alike (r : Likeness b) : Conversion b → Conversion b → Prop
  | idle : Alike r .idle .idle
  | ready {context context' : b.Converter} (geometry : Geometry)
      (h : r.converter context context') :
      Alike r (.ready context geometry) (.ready context' geometry)
  | refused (geometry : Geometry) : Alike r (.refused geometry) (.refused geometry)

/-- The same convert stage without its pool, apart from what nobody can tell apart. -/
def ConvertStage.Afresh (r : Likeness b) (s s' : ConvertStage b) : Prop :=
  ∃ conversion, s.conversion.Alike r conversion
    ∧ s' = { s with conversion, pool := .ofCapacity 0 }

/-- The same encode stage without the pool of its converter, apart from what nobody can tell
    apart. -/
def EncodeStage.Afresh (r : Likeness b) (s s' : EncodeStage b) : Prop :=
  ∃ context converter, r.encoder s.context context
    ∧ Option.Rel (ConvertStage.Afresh r) s.converter converter
    ∧ s' = { s with context, converter, poolSize := 0 }

/-- The same chain without its pools, apart from what nobody can tell apart. -/
structure Chain.Afresh (r : Likeness b) (c c' : Chain b) : Prop where
  decode : c.decode.Afresh r c'.decode
  encode : c.encode.Afresh r c'.encode

/-- The same transcoder without its pools, apart from what nobody can tell apart. -/
structure Transcoder.Afresh (r : Likeness b) (t t' : Transcoder b) : Prop where
  config : t.config = t'.config
  lanes : ∀ kind, Option.Rel (Chain.Afresh r) (t.lanes.get kind) (t'.lanes.get kind)

variable {δ : Type} {r : Likeness b} {e : Engine b σ}

/-- Nothing but the pool is left out. -/
theorem ConvertStage.afresh_unpooled (r : Likeness b) (s : ConvertStage b) :
    s.Afresh r s.unpooled := by
  refine ⟨s.conversion, ?_, rfl⟩
  cases s.conversion with
  | idle => exact .idle
  | ready context geometry => exact .ready geometry (r.converter.refl' context)
  | refused geometry => exact .refused geometry

theorem Chain.afresh_unpooled (r : Likeness b) (c : Chain b) : c.Afresh r c.unpooled := by
  refine ⟨⟨_, r.decoder.refl' _, rfl⟩, _, _, r.encoder.refl' _, ?_, rfl⟩
  cases c.encode.converter with
  | none => exact .none
  | some converter => exact .some (converter.afresh_unpooled r)

/-- Without pools there is nothing more to leave out. -/
theorem Chain.Afresh.unpooled {c c' : Chain b} (h : c.Afresh r c') : c'.unpooled = c' := by
  rcases c' with ⟨decode', encode'⟩
  rcases h with ⟨⟨context, -, rfl⟩, context', converter, -, hconverter, rfl⟩
  generalize c.encode.converter = converter? at hconverter
  cases hconverter with
  | none => rfl
  | some hconverter =>
      rcases hconverter with ⟨conversion, -, rfl⟩
      rfl

namespace DecodeStage

variable {s s' : DecodeStage b} (reset : Picture b.Store → Picture b.Store)

theorem Afresh.codec_eq (h : s.Afresh r s') : s'.codec = s.codec := by
  rcases h with ⟨context, -, rfl⟩
  rfl

/-- It makes no difference what becomes of a picture once it was consumed. -/
theorem Afresh.settle (h : s.Afresh r s') (receipt : Receipt) (picture picture' : Picture b.Store) :
    (s.settle receipt picture).Afresh r (s'.settle receipt picture') := by
  rcases h with ⟨context, hcontext, rfl⟩
  unfold DecodeStage.settle
  -- A pool without room keeps nothing.
  split <;> exact ⟨context, hcontext, rfl⟩

/-- A frame is decoded to the same picture on a reused one and on a new one. -/
theorem input_afresh (he : e.Respects r) (unit : AccessUnit) (h : s.Afresh r s') :
    Twins (fun x x' => Option.Rel r.Frames x.1 x'.1 ∧ x.2.Afresh r x'.2) (s.input e unit)
      (s'.input (e.resetting reset) unit) := by
  rcases h with ⟨context, hcontext, rfl⟩
  unfold input
  refine (he.obtain_twins s.pool reset).bind ?_
  rintro ⟨blank, pool⟩ ⟨blank', _⟩ ⟨hblank, rfl⟩
  refine (he.decode _ _ _ _ _ hcontext hblank).bind ?_
  rintro ⟨outcome, picture, next⟩ ⟨outcome', picture', next'⟩ ⟨houtcome, hnext, hpicture⟩
  cases houtcome
  -- Whatever was written to a picture, it goes back to the pool unless it was filled.
  rcases outcome with cause | _ | _
  · exact .bind_note _ _ (.pure ⟨.none, next', hnext, rfl⟩)
  · exact .pure ⟨.none, next', hnext, rfl⟩
  · exact .pure ⟨.some ⟨hpicture rfl, rfl⟩, next', hnext, rfl⟩

/-- Consumers that cannot tell frames apart that are alike. -/
def DeliverAlike (r : Likeness b) (same : δ → δ → Prop) (deliver deliver' : Consumer b σ δ) :
    Prop :=
  ∀ d d' frame frame', same d d' → r.Frames frame frame' →
    Twins (fun x x' => x.1 = x'.1 ∧ same x.2 x'.2) (deliver d frame) (deliver' d' frame')

variable {same : δ → δ → Prop} {deliver deliver' : Consumer b σ δ} {d d' : δ}

/-- A frame is handed on as the same, whether its picture was used before or not. -/
theorem feed_afresh (he : e.Respects r) (hdeliver : DeliverAlike r same deliver deliver')
    (unit : AccessUnit) (h : s.Afresh r s') (hd : same d d') :
    Twins (fun x x' => x.1 = x'.1 ∧ x.2.1.Afresh r x'.2.1 ∧ same x.2.2 x'.2.2)
      (s.feed e deliver unit d) (s'.feed (e.resetting reset) deliver' unit d') := by
  unfold feed
  refine (input_afresh reset he unit h).bind ?_
  rintro ⟨frame?, s₁⟩ ⟨frame?', s₁'⟩ ⟨hframe, hs₁⟩
  cases hframe with
  | none => exact .pure ⟨rfl, hs₁, hd⟩
  | some hframe =>
      refine (hdeliver _ _ _ _ hd hframe).bind ?_
      rintro ⟨receipt, d₁⟩ ⟨_, d₁'⟩ ⟨rfl, hd₁⟩
      exact .pure ⟨rfl, hs₁.settle _ _ _, hd₁⟩

/-- Draining hands on the same pictures, written to new ones. -/
theorem flush_afresh (he : e.Respects r) (hdeliver : DeliverAlike r same deliver deliver')
    (h : s.Afresh r s') (hd : same d d') :
    Twins (fun x x' => x.1 = x'.1 ∧ x.2.1.Afresh r x'.2.1 ∧ same x.2.2 x'.2.2)
      (s.flush e deliver d) (s'.flush (e.resetting reset) deliver' d') := by
  -- The induction is on what the first decoder still holds. The second yields as much.
  induction s, d using DecodeStage.flush.induct generalizing s' d' with
  | case1 s d ih =>
      rcases h with ⟨context, hcontext, rfl⟩
      rw [flush, flush]
      refine (he.obtain_twins s.pool reset).bind ?_
      rintro ⟨blank, pool⟩ ⟨blank', _⟩ ⟨hblank, rfl⟩
      refine (he.drainDecoder _ _ _ _ hcontext hblank).bind ?_
      rintro ⟨picture, pull⟩ ⟨picture', pull'⟩ ⟨hpull, hpicture⟩
      cases hpull with
      | @more _ next next' less less' hnext =>
          have hframe : r.Frames ⟨picture, some s.codec⟩ ⟨picture', some s.codec⟩ :=
            ⟨hpicture id, rfl⟩
          have hdrained : Afresh r { s with context := next, pool }
              { s with context := next', pool := .ofCapacity 0 } := ⟨next', hnext, rfl⟩
          refine (hdeliver _ _ _ _ hd hframe).bind ?_
          rintro ⟨⟨outcome, kept⟩, d₁⟩ ⟨_, d₁'⟩ ⟨rfl, hd₁⟩
          have hafter := hdrained.settle ⟨outcome, kept⟩ picture picture'
          cases outcome with
          | error fault => exact .pure ⟨rfl, hafter, hd₁⟩
          | ok _ => exact ih pool ⟨picture, .empty next⟩ next less ⟨.ok (), kept⟩ d₁ hafter hd₁
      | empty hnext => exact .pure ⟨rfl, ⟨_, hnext, rfl⟩, hd⟩
      | failed cause hnext => exact .bind_note _ _ (.pure ⟨rfl, ⟨_, hnext, rfl⟩, hd⟩)

end DecodeStage

namespace ConvertStage

variable {s s' : ConvertStage b} (reset : Picture b.Store → Picture b.Store)

theorem Afresh.release (h : s.Afresh r s') (picture picture' : Picture b.Store) :
    (s.release picture).Afresh r (s'.release picture') := by
  rcases h with ⟨conversion, hconversion, rfl⟩
  exact ⟨conversion, hconversion, rfl⟩

/-- Both ask for the same converter and get the same answer. -/
theorem openConversion_afresh (e : Engine b σ) (geometry : Geometry) (target : PixelFormat) :
    Twins (Conversion.Alike r) (openConversion e geometry target)
      (openConversion (e.resetting reset) geometry target) := by
  unfold openConversion
  refine .bind_self (e.openConverter geometry target) fun opened => ?_
  cases opened with
  | ok context => exact .bind_note _ _ (.pure (.ready geometry (r.converter.refl' context)))
  | error cause => exact .bind_note _ _ (.pure (.refused geometry))

/-- Both keep or replace their conversion for the same geometry. -/
theorem prepare_afresh (e : Engine b σ) (geometry : Geometry) (h : s.Afresh r s') :
    Twins (Conversion.Alike r) (s.prepare e geometry)
      (s'.prepare (e.resetting reset) geometry) := by
  rcases h with ⟨conversion, hconversion, rfl⟩
  rcases s with ⟨target, conversion₀, pool⟩
  have hopen := openConversion_afresh (r := r) reset e geometry target
  unfold prepare
  -- Both are set up for the same, so both find that it fits or that it does not.
  cases hconversion with
  | idle => exact hopen
  | ready current hcontext =>
      by_cases hsame : current = geometry
      · simp only [if_pos hsame]
        exact .pure (.ready current hcontext)
      · simp only [if_neg hsame]
        exact .bind_note _ _ hopen
  | refused current =>
      by_cases hsame : current = geometry
      · simp only [if_pos hsame]
        exact .pure (.refused current)
      · simp only [if_neg hsame]
        exact hopen

/-- A picture is converted to the same on a reused one and on a new one. -/
theorem convert_afresh (he : e.Respects r) {frame frame' : RawFrame b.Store}
    (hframe : r.Frames frame frame') (h : s.Afresh r s') :
    Twins (fun x x' => Option.Rel r.Frames x.1 x'.1 ∧ x.2.Afresh r x'.2) (s.convert e frame)
      (s'.convert (e.resetting reset) frame') := by
  have hprepare (geometry : Geometry) := prepare_afresh reset e geometry h
  rcases h with ⟨conversion, hconversion, rfl⟩
  unfold convert
  rw [← Likeness.geometry?_eq hframe.1]
  cases frame.picture.geometry? with
  | none => exact .pure ⟨.none, conversion, hconversion, rfl⟩
  | some geometry =>
      by_cases hsame : geometry.format = s.target
      · simp only [if_pos hsame]
        exact .pure ⟨.none, conversion, hconversion, rfl⟩
      · simp only [if_neg hsame]
        refine (hprepare geometry).bind ?_
        rintro _ _ (_ | ⟨geometry, hcontext⟩ | geometry)
        · exact .pure ⟨.none, _, .idle, rfl⟩
        · refine (he.obtain_twins s.pool reset).bind ?_
          rintro ⟨blank, pool⟩ ⟨blank', _⟩ ⟨hblank, rfl⟩
          refine (he.convert _ _ _ _ _ _ hcontext hframe.1 hblank).bind ?_
          rintro ⟨outcome, picture, next⟩ ⟨outcome', picture', next'⟩ ⟨houtcome, hnext, hpicture⟩
          cases houtcome
          -- A picture that was not filled goes back, so nobody compares what is in it.
          rcases outcome with cause | _
          · exact .bind_note _ _ (.pure ⟨.none, _, .ready geometry hnext, rfl⟩)
          · have htimed := Likeness.setTimes (hpicture rfl) hframe.1
            exact .pure ⟨.some ⟨htimed, hframe.2⟩, _, .ready geometry hnext, rfl⟩
        · exact .pure ⟨.none, _, .refused geometry, rfl⟩

end ConvertStage

namespace EncodeStage

variable {s s' : EncodeStage b} (reset : Picture b.Store → Picture b.Store)

theorem Afresh.setConverter (h : s.Afresh r s') {converter converter' : ConvertStage b}
    (hconverter : converter.Afresh r converter') :
    Afresh r { s with converter := some converter } { s' with converter := some converter' } := by
  rcases h with ⟨context, -, hcontext, -, rfl⟩
  exact ⟨context, some converter', hcontext, .some hconverter, rfl⟩

/-- Both set up a converter for the same target, if there is none yet. -/
theorem converterFor_afresh (incoming : PixelFormat) (h : s.Afresh r s') :
    Twins (ConvertStage.Afresh r) (s.converterFor incoming : Act σ _)
      (s'.converterFor incoming) := by
  rcases h with ⟨context, converter, -, hconverter, rfl⟩
  rcases s with ⟨settings, implementation, context₀, formats, converter₀, poolSize⟩
  unfold converterFor
  cases hconverter with
  | none => exact .bind_note _ _ (.pure ⟨.idle, .idle, rfl⟩)
  | some hconverter => exact .pure hconverter

/-- Pictures that are alike are encoded to the same packet. -/
theorem encode_afresh (he : e.Respects r) (emit : Emitter σ) {picture picture' : Picture b.Store}
    (hpicture : r.picture picture picture') (h : s.Afresh r s') :
    Twins (fun x x' => x.1 = x'.1 ∧ x.2.Afresh r x'.2) (s.encode e emit picture)
      (s'.encode (e.resetting reset) emit picture') := by
  rcases h with ⟨context, converter, hcontext, hconverter, rfl⟩
  unfold encode
  rw [← Likeness.pts_eq hpicture, ← Likeness.dts_eq hpicture]
  refine (he.encode _ _ _ _ hcontext hpicture).bind ?_
  rintro ⟨outcome, next⟩ ⟨outcome', next'⟩ ⟨houtcome, hnext⟩
  cases houtcome
  have hafter : Afresh r { s with context := next }
      { s with context := next', converter, poolSize := 0 } :=
    ⟨next', converter, hnext, hconverter, rfl⟩
  -- A note differs from nothing only in what nobody acts on, and a packet is offered to the same
  -- receiver.
  rcases outcome with cause | _ | packet
  · exact .bind_note _ _ (.pure ⟨rfl, hafter⟩)
  · exact .pure ⟨rfl, hafter⟩
  · exact .bind_self _ fun answer => .pure ⟨rfl, hafter⟩

/-- An image comes to the same packet by way of the converter. -/
theorem encodeVideo_afresh (he : e.Respects r) (emit : Emitter σ) (incoming : PixelFormat)
    {frame frame' : RawFrame b.Store} (hframe : r.Frames frame frame') (h : s.Afresh r s') :
    Twins (fun x x' => x.1 = x'.1 ∧ x.2.Afresh r x'.2) (s.encodeVideo e emit incoming frame)
      (s'.encodeVideo (e.resetting reset) emit incoming frame') := by
  unfold encodeVideo
  refine (converterFor_afresh incoming h).bind fun converter converter' hconverter => ?_
  refine (ConvertStage.convert_afresh reset he hframe hconverter).bind ?_
  rintro ⟨converted?, converter₁⟩ ⟨converted?', converter₁'⟩ ⟨hconverted, hconverter₁⟩
  -- Without a converted frame the encoder gets the one that came in.
  cases hconverted with
  | none => exact encode_afresh reset he emit hframe.1 (h.setConverter hconverter₁)
  | some hconverted =>
      refine (encode_afresh reset he emit hconverted.1 h).bind ?_
      rintro ⟨outcome, s₁⟩ ⟨outcome', s₁'⟩ ⟨houtcome, hs₁⟩
      exact .pure ⟨houtcome, hs₁.setConverter (hconverter₁.release _ _)⟩

/-- A frame comes to the same packet, be it sound or an image. -/
theorem input_afresh (he : e.Respects r) (emit : Emitter σ) {frame frame' : RawFrame b.Store}
    (hframe : r.Frames frame frame') (h : s.Afresh r s') :
    Twins (fun x x' => x.1 = x'.1 ∧ x.2.Afresh r x'.2) (s.input e emit frame)
      (s'.input (e.resetting reset) emit frame') := by
  have hkind : s'.trackType = s.trackType := by
    rcases h with ⟨context, converter, -, -, rfl⟩
    rfl
  unfold input
  rw [hkind, ← hframe.trackType_eq, ← Likeness.pixel_eq hframe.1]
  -- Only sound and images in a known format get to the encoder.
  by_cases hsame : frame.trackType = s.trackType
  · simp only [if_pos hsame]
    cases frame.trackType with
    | audio => exact encode_afresh reset he emit hframe.1 h
    | video =>
        cases frame.picture.pixel with
        | none => exact .bind_note _ _ (.pure ⟨rfl, h⟩)
        | some incoming => exact encodeVideo_afresh reset he emit incoming hframe h
  · simp only [if_neg hsame]
    exact .pure ⟨rfl, h⟩

/-- Draining yields the same packets. -/
theorem flush_afresh (he : e.Respects r) (emit : Emitter σ) (h : s.Afresh r s') :
    Twins (fun x x' => x.1 = x'.1 ∧ x.2.Afresh r x'.2) (s.flush e emit)
      (s'.flush (e.resetting reset) emit) := by
  -- The induction is on what the first encoder still holds. The second yields as much.
  induction s using EncodeStage.flush.induct generalizing s' with
  | case1 s ih =>
      rcases h with ⟨context, converter, hcontext, hconverter, rfl⟩
      have hafter {next next' : b.Encoder} (hnext : r.encoder next next') :
          Afresh r { s with context := next }
            { s with context := next', converter, poolSize := 0 } :=
        ⟨next', converter, hnext, hconverter, rfl⟩
      rw [flush, flush]
      refine (he.drainEncoder _ _ hcontext).bind ?_
      rintro _ _ hpull
      cases hpull with
      | @more packet next next' less less' hnext =>
          refine .bind_self _ fun answer => ?_
          cases answer with
          | error fault => exact .pure ⟨rfl, hafter hnext⟩
          | ok _ => exact ih next less (hafter hnext)
      | empty hnext => exact .pure ⟨rfl, hafter hnext⟩
      | failed cause hnext => exact .bind_note _ _ (.pure ⟨rfl, hafter hnext⟩)

end EncodeStage

namespace Chain

variable {c c' : Chain b} (reset : Picture b.Store → Picture b.Store)

/-- The encoder behind a decoder cannot tell frames apart that are alike. -/
theorem consumer_alike (he : e.Respects r) (sink : Sink σ) :
    DecodeStage.DeliverAlike r (EncodeStage.Afresh r) (consumer e sink)
      (consumer (e.resetting reset) sink) := by
  intro encode encode' frame frame' hencode hframe
  unfold consumer
  refine (EncodeStage.input_afresh reset he sink.inputFrame hframe hencode).bind ?_
  rintro ⟨outcome, encode₁⟩ ⟨_, encode₁'⟩ ⟨rfl, hencode₁⟩
  exact .pure ⟨rfl, hencode₁⟩

/-- What comes in at one end of a chain comes out the same at the other. -/
theorem input_afresh (he : e.Respects r) (sink : Sink σ) (unit : AccessUnit) (h : c.Afresh r c') :
    Twins (fun x x' => x.1 = x'.1 ∧ x.2.Afresh r x'.2) (c.input e sink unit)
      (c'.input (e.resetting reset) sink unit) := by
  unfold input
  refine (DecodeStage.feed_afresh reset he (consumer_alike reset he sink) unit h.decode
    h.encode).bind ?_
  rintro ⟨outcome, decode, encode⟩ ⟨outcome', decode', encode'⟩ ⟨houtcome, hdecode, hencode⟩
  exact .pure ⟨houtcome, hdecode, hencode⟩

theorem flush_afresh (he : e.Respects r) (sink : Sink σ) (h : c.Afresh r c') :
    Twins Eq (c.flush e sink) (c'.flush (e.resetting reset) sink) := by
  unfold flush
  refine (DecodeStage.flush_afresh reset he (consumer_alike reset he sink) h.decode
    h.encode).bind ?_
  rintro ⟨outcome, decode, encode⟩ ⟨_, decode', encode'⟩ ⟨rfl, -, hencode⟩
  cases outcome with
  | error fault => exact .pure rfl
  | ok _ =>
      refine (EncodeStage.flush_afresh reset he sink.inputFrame hencode).bind ?_
      rintro ⟨outcome, encode₁⟩ ⟨outcome', encode₁'⟩ ⟨houtcome, -⟩
      exact .pure houtcome

end Chain

namespace Transcoder

variable {t t' : Transcoder b} (reset : Picture b.Store → Picture b.Store)

theorem get_unpooled (t : Transcoder b) (kind : TrackType) :
    t.unpooled.lanes.get kind = (t.lanes.get kind).map Chain.unpooled := by
  cases kind <;> rfl

theorem unpooled_setLane (t : Transcoder b) (kind : TrackType) (chain? : Option (Chain b)) :
    (t.setLane kind chain?).unpooled = t.unpooled.setLane kind (chain?.map Chain.unpooled) := by
  cases kind <;> rfl

/-- A transcoder without its pools is the same transcoder. -/
theorem afresh_unpooled (r : Likeness b) (t : Transcoder b) : t.Afresh r t.unpooled := by
  refine ⟨rfl, fun kind => ?_⟩
  rw [get_unpooled]
  cases t.lanes.get kind with
  | none => exact .none
  | some chain => exact .some (chain.afresh_unpooled r)

/-- What has no pools can lose them once more. -/
theorem Afresh.unpooled (h : t.Afresh r t') : t.Afresh r t'.unpooled := by
  refine ⟨h.config, fun kind => ?_⟩
  have hlane := h.lanes kind
  rw [get_unpooled]
  revert hlane
  generalize t.lanes.get kind = chain?, t'.lanes.get kind = chain?'
  rintro (hchain | _)
  · refine .some ?_
    rw [hchain.unpooled]
    exact hchain
  · exact .none

theorem Afresh.setLane (h : t.Afresh r t') (kind : TrackType) {chain? chain?' : Option (Chain b)}
    (hchain : Option.Rel (Chain.Afresh r) chain? chain?') :
    (t.setLane kind chain?).Afresh r (t'.setLane kind chain?') := by
  refine ⟨h.config, fun k => ?_⟩
  -- All other lanes were the same before.
  by_cases hk : k = kind
  · subst hk
    rw [get_setLane_self, get_setLane_self]
    exact hchain
  · rw [get_setLane_of_ne _ hk, get_setLane_of_ne _ hk]
    exact h.lanes k

theorem Afresh.target_eq (h : t.Afresh r t') (kind : TrackType) :
    t'.target kind = t.target kind := by
  rw [target, target, h.config]

/-- Adding a track ends the same way. The chain that it opens has pools, and these are left out
    before the next operation. -/
theorem addTrack_afresh (e : Engine b σ) (sink : Sink σ) (track : Track) (h : t.Afresh r t') :
    Twins (fun x x' => x.1 = x'.1 ∧ x.2.Afresh r x'.2.unpooled) (t.addTrack e sink track)
      (t'.addTrack (e.resetting reset) sink track) := by
  have hnone := h.setLane track.trackType .none
  have hconfig : (t'.setLane track.trackType none).config
      = (t.setLane track.trackType none).config := h.config.symm
  unfold addTrack
  simp only [h.target_eq, hconfig]
  by_cases hsame : track.codec = t.target track.trackType
  · simp only [if_pos hsame]
    exact .bind_note _ _ (.bind_self _ fun answer => .pure ⟨rfl, hnone.unpooled⟩)
  · simp only [if_neg hsame]
    -- The same chain is opened for both, with pools that are left out from then on.
    refine .bind_self (Chain.build e track _ _) fun built => ?_
    cases built with
    | error fault => exact .pure ⟨rfl, hnone.unpooled⟩
    | ok chain =>
        refine .bind_note _ _ (.bind_self _ fun answer => .pure ⟨rfl, ?_⟩)
        rw [unpooled_setLane]
        exact hnone.unpooled.setLane track.trackType (.some (chain.afresh_unpooled r))

/-- A frame that is put in comes to the same. -/
theorem inputFrame_afresh (he : e.Respects r) (sink : Sink σ) (unit : AccessUnit)
    (h : t.Afresh r t') :
    Twins (fun x x' => x.1 = x'.1 ∧ x.2.Afresh r x'.2) (t.inputFrame e sink unit)
      (t'.inputFrame (e.resetting reset) sink unit) := by
  have hlane := h.lanes unit.trackType
  unfold inputFrame
  simp only [h.target_eq]
  by_cases hcodec : unit.codec = t.target unit.trackType
  · simp only [if_pos hcodec]
    exact .bind_self _ fun answer => .pure ⟨rfl, h⟩
  · simp only [if_neg hcodec]
    -- Both have a chain for the kind of the frame, or neither has.
    revert hlane
    generalize t.lanes.get unit.trackType = chain?, t'.lanes.get unit.trackType = chain?'
    rintro (hchain | _)
    · simp only [hchain.decode.codec_eq]
      split
      · refine (Chain.input_afresh reset he sink unit hchain).bind ?_
        rintro ⟨outcome, c⟩ ⟨_, c'⟩ ⟨rfl, hc⟩
        exact .pure ⟨rfl, h.setLane _ (.some hc)⟩
      · exact .bind_note _ _ (.pure ⟨rfl, h⟩)
    · exact .bind_note _ _ (.pure ⟨rfl, h⟩)

/-- Draining a lane ends the same way and leaves it empty. -/
theorem flushLane_afresh (he : e.Respects r) (sink : Sink σ) (kind : TrackType)
    (h : t.Afresh r t') :
    Twins (fun x x' => x.1 = x'.1 ∧ x.2.Afresh r x'.2) (t.flushLane e sink kind)
      (t'.flushLane (e.resetting reset) sink kind) := by
  have hlane := h.lanes kind
  have hnone := h.setLane kind .none
  unfold flushLane
  revert hlane
  generalize t.lanes.get kind = chain?, t'.lanes.get kind = chain?'
  -- Either both lanes have a chain, or both are empty.
  rintro (hchain | _)
  · simp only [hchain.decode.codec_eq]
    refine (Chain.flush_afresh reset he sink hchain).bind ?_
    rintro (fault | _) _ rfl
    · exact .pure ⟨rfl, hnone⟩
    · exact .bind_note _ _ (.pure ⟨rfl, hnone⟩)
  · exact .pure ⟨rfl, h⟩

theorem flush_afresh (he : e.Respects r) (sink : Sink σ) (h : t.Afresh r t') :
    Twins (fun x x' => x.1 = x'.1 ∧ x.2.Afresh r x'.2) (t.flush e sink)
      (t'.flush (e.resetting reset) sink) := by
  unfold flush
  refine (flushLane_afresh reset he sink .audio h).bind ?_
  rintro ⟨outcome, t₁⟩ ⟨_, t₁'⟩ ⟨rfl, ht₁⟩
  cases outcome with
  | error fault => exact .pure ⟨rfl, ht₁⟩
  | ok _ => exact flushLane_afresh reset he sink .video ht₁

/-- An operation ends the same way and does the same to the world without pools. -/
theorem perform_afresh (he : e.Respects r) (sink : Sink σ) (op : Operation) (h : t.Afresh r t') :
    Twins (fun x x' => x.1 = x'.1 ∧ x.2.Afresh r x'.2.unpooled) (t.perform e sink op)
      (t'.perform (e.resetting reset) sink op) := by
  have hafter (x : Except Fault Unit × Transcoder b) (x' : Except Fault Unit × Transcoder b)
      (hx : x.1 = x'.1 ∧ x.2.Afresh r x'.2) : x.1 = x'.1 ∧ x.2.Afresh r x'.2.unpooled :=
    ⟨hx.1, hx.2.unpooled⟩
  cases op with
  | addTrack track => exact addTrack_afresh reset e sink track h
  | inputFrame unit => exact (inputFrame_afresh reset he sink unit h).mono hafter
  | flush => exact (flush_afresh reset he sink h).mono hafter
  | tracksCompleted => exact .bind_self _ fun _ => .pure ⟨rfl, h.unpooled⟩
  | resetTracks =>
      simp only [perform, resetTracks, bind_assoc, pure_bind]
      -- After a reset there is no chain on either side.
      refine .bind_self _ fun _ => .pure ⟨rfl, h.config, fun kind => ?_⟩
      cases kind <;> exact .none

/-! ## A run without pools -/

/-- Every operation is performed without pools, and so every picture offered is new. -/
def runAfresh (e : Engine b σ) (sink : Sink σ) :
    List Operation → Transcoder b → Act σ (List (Except Fault Unit) × Transcoder b)
  | [], t => return ([], t)
  | op :: ops, t => do
    let (outcome, t) ← t.unpooled.perform e sink op
    let (outcomes, t) ← runAfresh e sink ops t
    return (outcome :: outcomes, t)

/-- What the sink is told in a run in which every picture offered is new. -/
def tellsAfresh (e : Engine b σ) (sink : Sink σ) (ops : List Operation) (t : Transcoder b)
    (w : σ) : List SinkCall :=
  (t.runAfresh e.onSecond sink.observed ops ([], w)).world.1

/-- A run ends the same way, operation by operation. -/
theorem run_afresh (he : e.Respects r) (sink : Sink σ) (ops : List Operation)
    (h : t.Afresh r t'.unpooled) :
    Twins (fun x x' => x.1 = x'.1) (t.run e sink ops)
      (t'.runAfresh (e.resetting reset) sink ops) := by
  -- What is kept from operation to operation: the second transcoder, once it has given up
  -- the pools that the last operation left it, is the first without its own.
  induction ops generalizing t t' with
  | nil => exact .pure rfl
  | cons op ops ih =>
      rw [run, runAfresh]
      refine (perform_afresh reset he sink op h).bind ?_
      rintro ⟨outcome, t₁⟩ ⟨_, t₁'⟩ ⟨rfl, ht₁⟩
      refine (ih ht₁).bind ?_
      rintro ⟨outcomes, t₂⟩ ⟨_, t₂'⟩ rfl
      exact .pure rfl

/-- No run shows that pictures are reused. Take any engine to which a picture that was reset is
    like a new one, any sink, any transcoder, whatever its pools hold and have room for, and
    any history. The operations end the same way, the world is left the same and the sink is
    told the same as when every picture that is offered to be written to is new. How the
    engine resets pictures is of no consequence there, for none is ever reset. -/
theorem run_eq_runAfresh (r : Likeness b) (e : Engine b σ) (he : e.Respects r) (sink : Sink σ)
    (ops : List Operation) (t : Transcoder b) (w : σ) (reset : Picture b.Store → Picture b.Store) :
    let pooled := t.run e sink ops w
    let afresh := t.runAfresh (e.resetting reset) sink ops w
    pooled.value.1 = afresh.value.1 ∧ pooled.world = afresh.world
      ∧ t.tells e sink ops w = t.tellsAfresh (e.resetting reset) sink ops w := by
  intro pooled afresh
  have hself := afresh_unpooled r t
  rcases run_afresh reset he sink ops hself w with ⟨houtcomes, hworld⟩
  -- What the sink is told is a world of its own, and twins leave the same world.
  have htold := (run_afresh reset he.onSecond sink.observed ops hself ([], w)).2
  exact ⟨houtcomes, hworld, congrArg Prod.fst htold⟩

/-- An H.265 stream whose pictures are converted, with a packet that cannot be decoded. The
    engine of the run without pools would not reset pictures at all. -/
theorem run_eq_runAfresh_converted_pictures :
    let start : Transcoder Loopback.backend :=
      { config := .default, usable := rfl, lanes := ⟨none, none⟩ }
    let e := Loopback.engine { decoderOutput := .nv12 }
    let track := Track.video .h265 640 480 ⟨0⟩
    let ops : List Operation :=
      [.addTrack track, .inputFrame ⟨.h265, 0, 0, [1]⟩,
        .inputFrame ⟨.h265, 40, 40, Loopback.corrupt⟩, .inputFrame ⟨.h265, 80, 80, [3]⟩, .flush]
    start.tells e .noting ops {} = start.tellsAfresh (e.resetting id) .noting ops {}
      ∧ start.tellsAfresh (e.resetting id) .noting ops {}
        = [.addTrack (Settings.ofTrack .h264 track).toTrack (.ok ()),
            .inputFrame ⟨.h264, 0, 0, [0, 0, 0, 1, 0x65, 1]⟩ (.ok ()),
            .inputFrame ⟨.h264, 80, 80, [0, 0, 0, 1, 0x41, 3]⟩ (.ok ())] := by
  intro start e track ops
  -- The loopback engine resets a picture to what a new one is.
  have he : e.Respects (.equality _) := Engine.respects_equality (fun _ _ => rfl) fun _ => rfl
  refine ⟨(run_eq_runAfresh _ e he .noting ops start {} id).2.2, ?_⟩
  clear he
  revert start e track ops
  cbv

end Transcoder

end Recode
