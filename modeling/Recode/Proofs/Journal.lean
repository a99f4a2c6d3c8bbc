import Recode.Proofs.Emission

/-!
# A journal of everything that is asked

What a pipeline does with its engine shows in no result. Whether a context is used
after its end, or asked at all, is a question about the calls themselves. So they are
written to a journal, in the order in which they are made, together with the calls on
the sink.

A context is a value here, and every call on it yields another one. What makes these
values one context is that they descend from one opening. A journaled engine therefore
numbers its contexts: a context goes by the place in the journal at which it was
opened, and keeps this number for good. No two openings share a place, so no two
contexts share a number.

The numbers make the contexts values of another type, and so everything that holds one
is of another type as well. `bare` takes the numbers off again. A pipeline in front of
a journaled engine does what the pipeline does without numbers and journal. This is
what `Act.Follows` says, together with what the entries are. The lemmas about opening
are here, and what an opened chain does comes later.

## Main definitions

* `Numbered`, `Backend.numbered`: Contexts with numbers.
* `Call`: An entry of the journal.
* `Engine.journaled`, `Sink.journaled`: An engine and a sink whose calls are journaled.
* `DecodeStage.bare`, `EncodeStage.bare`, `Chain.bare`, `Transcoder.bare`: The numbers
  taken off.
* `Act.Follows`: One action does what another does and adds entries to a journal.

## Theorems

* `Act.Follows.bind`: Actions in a row.
* `selectFrom_follows`: A context that is found was opened last, and goes by its place.
* `Chain.build_follows`: Opening a chain opens a decoder and then an encoder.
-/

namespace Recode

/-- A context and the number it goes by. -/
structure Numbered (γ : Type) where
  /-- The place in the journal at which the context was opened. -/
  number : Nat
  context : γ

/-- The backend with numbered decoders and encoders. -/
abbrev Backend.numbered (b : Backend) : Backend :=
  { Store := b.Store
    Implementation := b.Implementation
    Decoder := Numbered b.Decoder
    Encoder := Numbered b.Encoder
    Converter := b.Converter
    decoderOrder := invImage Numbered.context b.decoderOrder
    encoderOrder := invImage Numbered.context b.encoderOrder }

/-- Something that an engine is asked, or that a sink is told. Decoders and encoders go
    by their numbers. -/
inductive Call (b : Backend) where
  | findDecoder (lookup : Lookup)
  | findEncoder (lookup : Lookup)
  | openDecoder (implementation : b.Implementation) (track : Track) (opened : Bool)
  | openEncoder (implementation : b.Implementation) (settings : Settings) (opened : Bool)
  | openConverter (geometry : Geometry) (target : PixelFormat)
  | pixelFormats (encoder : Nat)
  | decode (decoder : Nat) (packet : Packet) (blank : Picture b.Store)
  /-- The drain has `ended` if it reports that nothing is left, or that it failed. -/
  | drainDecoder (decoder : Nat) (blank : Picture b.Store) (ended : Bool)
  | encode (encoder : Nat) (picture : Picture b.Store)
  | drainEncoder (encoder : Nat) (ended : Bool)
  | convert (source blank : Picture b.Store)
  | fresh
  | told (call : SinkCall)

/-- A pull that is the end of its drain. -/
def Pull.ends {γ α : Type} {smaller : γ → γ → Prop} {context : γ} :
    Pull smaller context α → Bool
  | .more .. => false
  | .empty _ | .failed .. => true

/-- The context to go on with keeps the number of the one that was drained. -/
def Pull.numbered {γ α : Type} {order : WellFoundedRelation γ} {context : Numbered γ} :
    Pull order.rel context.context α → Pull (invImage Numbered.context order).rel context α
  | .more item next less => .more item ⟨context.number, next⟩ less
  | .empty next => .empty ⟨context.number, next⟩
  | .failed cause next => .failed cause ⟨context.number, next⟩

namespace Act

variable {σ α β γ δ κ : Type}

/-- Runs an action in the second part of a world and makes an entry for it in the journal
    in the first part. The value may depend on the place of that entry. -/
def journaled (x : Act σ α) (entry : α → κ) (value : Nat → α → β) : Act (List κ × σ) β := fun w =>
  let inner := x w.2
  ⟨value w.1.length inner.value, inner.notes, (w.1 ++ [entry inner.value], inner.world)⟩

/-- `x`, begun with a journal, does in the world behind it what `y` does, and only adds
    entries to the journal. The entries and both values satisfy `post`. -/
def Follows (x : Act (List κ × σ) α) (journal : List κ) (y : Act σ β)
    (post : List κ → α → β → Prop) : Prop :=
  ∀ w, ∃ entries a, x (journal, w) = ⟨a, (y w).notes, (journal ++ entries, (y w).world)⟩
    ∧ post entries a (y w).value

namespace Follows

variable {x : Act (List κ × σ) α} {y : Act σ β} {journal : List κ} {p : List κ → α → β → Prop}
  {f : α → Act (List κ × σ) γ} {g : β → Act σ δ} {q : List κ → γ → δ → Prop}

theorem mono {p' : List κ → α → β → Prop} (hx : Follows x journal y p)
    (h : ∀ entries a a', p entries a a' → p' entries a a') : Follows x journal y p' := by
  intro w
  rcases hx w with ⟨entries, a, heq, hp⟩
  exact ⟨entries, a, heq, h entries a _ hp⟩

theorem pure {a : α} {a' : β} (h : p [] a a') :
    Follows (Pure.pure a : Act (List κ × σ) α) journal (Pure.pure a' : Act σ β) p := by
  intro w
  refine ⟨[], a, ?_, h⟩
  simp only [pure_apply, List.append_nil]

/-- Actions in a row make their entries in a row. The second is begun with the journal that the
    first has left. -/
theorem bind (hx : Follows x journal y p)
    (hf : ∀ entries a a', p entries a a' →
      Follows (f a) (journal ++ entries) (g a') fun more c c' => q (entries ++ more) c c') :
    Follows (x >>= f) journal (y >>= g) q := by
  intro w
  rcases hx w with ⟨entries, a, heq, hp⟩
  -- The second action finds the entries of the first at the end of its journal.
  rcases hf entries a _ hp (y w).world with ⟨more, c, heq', hq⟩
  refine ⟨entries ++ more, c, ?_, hq⟩
  simp only [bind_apply, heq, heq', List.append_assoc]

theorem bind_note (n : Note) {f : Unit → Act (List κ × σ) γ} {g : Unit → Act σ δ}
    (hf : Follows (f ()) journal (g ()) q) :
    Follows (Act.note n >>= f) journal (Act.note n >>= g) q := by
  intro w
  rcases hf w with ⟨entries, c, heq, hq⟩
  refine ⟨entries, c, ?_, hq⟩
  -- A note in front shows among the notes alone, so it is taken off by hand.
  change Outcome.mk (f () (journal, w)).value (n :: (f () (journal, w)).notes)
    (f () (journal, w)).world = _
  rw [heq]
  rfl

theorem journaled (y : Act σ β) (entry : β → κ) (value : Nat → β → α) (journal : List κ) :
    Follows (y.journaled entry value) journal y
      fun entries a a' => entries = [entry a'] ∧ a = value journal.length a' :=
  fun _ => ⟨_, _, rfl, rfl, rfl⟩

theorem recorded (y : Act σ α) (entry : α → κ) (journal : List κ) :
    Follows (y.recorded entry) journal y fun entries a a' => entries = [entry a'] ∧ a = a' :=
  fun _ => ⟨_, _, rfl, rfl, rfl⟩

end Follows

end Act

open Act

variable {b : Backend} {σ ι : Type}

/-- An engine that answers as `e` does, with its calls journaled and its contexts
    numbered. -/
def Engine.journaled (e : Engine b σ) : Engine b.numbered (List (Call b) × σ) :=
  { findDecoder := fun l => (e.findDecoder l).recorded fun _ => .findDecoder l
    findEncoder := fun l => (e.findEncoder l).recorded fun _ => .findEncoder l
    implementationName := e.implementationName
    openDecoder := fun i track =>
      (e.openDecoder i track).journaled (fun opened => .openDecoder i track opened.isOk)
        fun place opened => opened.map (Numbered.mk place)
    openEncoder := fun i settings =>
      (e.openEncoder i settings).journaled (fun opened => .openEncoder i settings opened.isOk)
        fun place opened => opened.map (Numbered.mk place)
    openConverter := fun geometry target =>
      (e.openConverter geometry target).recorded fun _ => .openConverter geometry target
    pixelFormats := fun c => (e.pixelFormats c.context).recorded fun _ => .pixelFormats c.number
    decode := fun c packet blank =>
      (e.decode c.context packet blank).journaled (fun _ => .decode c.number packet blank)
        fun _ decoded => ⟨decoded.outcome, decoded.picture, ⟨c.number, decoded.context⟩⟩
    drainDecoder := fun c blank =>
      (e.drainDecoder c.context blank).journaled
        (fun drained => .drainDecoder c.number blank drained.pull.ends)
        fun _ drained => ⟨drained.picture, drained.pull.numbered⟩
    encode := fun c picture =>
      (e.encode c.context picture).journaled (fun _ => .encode c.number picture)
        fun _ encoded => ⟨encoded.outcome, ⟨c.number, encoded.context⟩⟩
    drainEncoder := fun c =>
      (e.drainEncoder c.context).journaled (fun pull => .drainEncoder c.number pull.ends)
        fun _ pull => pull.numbered
    convert := fun c picture blank =>
      (e.convert c picture blank).journaled (fun _ => .convert picture blank)
        fun _ converted => ⟨converted.outcome, converted.picture, converted.context⟩
    fresh := e.fresh.recorded fun _ => .fresh
    recycle := e.recycle }

/-- A sink that acts as `s` does, with its calls journaled. -/
def Sink.journaled (s : Sink σ) : Sink (List (Call b) × σ) :=
  { addTrack := fun track =>
      (s.addTrack track).recorded fun answer => .told (.addTrack track answer)
    inputFrame := fun unit =>
      (s.inputFrame unit).recorded fun answer => .told (.inputFrame unit answer)
    tracksCompleted := s.tracksCompleted.recorded fun _ => .told .tracksCompleted
    resetTracks := s.resetTracks.recorded fun _ => .told .resetTracks }

/-- The conversion without numbers; it never had any. -/
def Conversion.bare : Conversion b.numbered → Conversion b
  | .idle => .idle
  | .ready context geometry => .ready context geometry
  | .refused geometry => .refused geometry

/-- The stage without numbers; it never had any. -/
def ConvertStage.bare (s : ConvertStage b.numbered) : ConvertStage b :=
  { target := s.target, conversion := s.conversion.bare, pool := s.pool }

/-- The stage without the number of its decoder. -/
def DecodeStage.bare (s : DecodeStage b.numbered) : DecodeStage b :=
  { codec := s.codec, implementation := s.implementation, context := s.context.context
    pool := s.pool }

/-- The stage without the number of its encoder. -/
def EncodeStage.bare (s : EncodeStage b.numbered) : EncodeStage b :=
  { settings := s.settings, implementation := s.implementation, context := s.context.context
    formats := s.formats, converter := s.converter.map ConvertStage.bare, poolSize := s.poolSize }

/-- The chain without the numbers of its contexts. -/
def Chain.bare (c : Chain b.numbered) : Chain b := ⟨c.decode.bare, c.encode.bare⟩

/-- The transcoder without the numbers of its contexts. -/
def Transcoder.bare (t : Transcoder b.numbered) : Transcoder b :=
  { config := t.config, usable := t.usable
    lanes := ⟨t.lanes.audio.map Chain.bare, t.lanes.video.map Chain.bare⟩ }

/-- The number of the decoder. -/
def Chain.decoder (c : Chain b.numbered) : Nat := c.decode.context.number

/-- The number of the encoder. -/
def Chain.encoder (c : Chain b.numbered) : Nat := c.encode.context.number

namespace Call

/-- A call made in search of a decoder. -/
def SeeksDecoder : Call b → Prop
  | findDecoder _ | openDecoder .. => True
  | _ => False

/-- A call made in search of an encoder that will do. -/
def SeeksEncoder : Call b → Prop
  | findEncoder _ | openEncoder .. | pixelFormats _ => True
  | _ => False

/-- A call made to convert a picture. -/
def Converts : Call b → Prop
  | openConverter .. | convert .. | fresh => True
  | _ => False

end Call

namespace Engine

variable (e : Engine b σ) (journal : List (Call b))

theorem openConverter_follows (geometry : Geometry) (target : PixelFormat) :
    Follows (e.journaled.openConverter geometry target) journal (e.openConverter geometry target)
      fun entries a a' => entries = [.openConverter geometry target] ∧ a = a' :=
  fun _ => ⟨_, _, rfl, rfl, rfl⟩

theorem pixelFormats_follows (context : Numbered b.Encoder) :
    Follows (e.journaled.pixelFormats context) journal (e.pixelFormats context.context)
      fun entries a a' => entries = [.pixelFormats context.number] ∧ a = a' :=
  fun _ => ⟨_, _, rfl, rfl, rfl⟩

theorem decode_follows (context : Numbered b.Decoder) (packet : Packet)
    (blank : Picture b.Store) :
    Follows (e.journaled.decode context packet blank) journal
      (e.decode context.context packet blank) fun entries a a' =>
        entries = [.decode context.number packet blank]
          ∧ a = ⟨a'.outcome, a'.picture, ⟨context.number, a'.context⟩⟩ :=
  fun _ => ⟨_, _, rfl, rfl, rfl⟩

theorem drainDecoder_follows (context : Numbered b.Decoder) (blank : Picture b.Store) :
    Follows (e.journaled.drainDecoder context blank) journal
      (e.drainDecoder context.context blank) fun entries a a' =>
        entries = [.drainDecoder context.number blank a'.pull.ends]
          ∧ a = ⟨a'.picture, a'.pull.numbered⟩ :=
  fun _ => ⟨_, _, rfl, rfl, rfl⟩

theorem encode_follows (context : Numbered b.Encoder) (picture : Picture b.Store) :
    Follows (e.journaled.encode context picture) journal (e.encode context.context picture)
      fun entries a a' => entries = [.encode context.number picture]
        ∧ a = ⟨a'.outcome, ⟨context.number, a'.context⟩⟩ :=
  fun _ => ⟨_, _, rfl, rfl, rfl⟩

theorem drainEncoder_follows (context : Numbered b.Encoder) :
    Follows (e.journaled.drainEncoder context) journal (e.drainEncoder context.context)
      fun entries a a' => entries = [.drainEncoder context.number a'.ends] ∧ a = a'.numbered :=
  fun _ => ⟨_, _, rfl, rfl, rfl⟩

/-- Converters have no numbers, so that what comes back is the same as without a journal. -/
theorem convert_follows (context : b.Converter) (picture blank : Picture b.Store) :
    Follows (e.journaled.convert context picture blank) journal (e.convert context picture blank)
      fun entries a a' => entries = [.convert picture blank]
        ∧ a = ⟨a'.outcome, a'.picture, a'.context⟩ :=
  fun _ => ⟨_, _, rfl, rfl, rfl⟩

end Engine

namespace Sink

variable (sink : Sink σ) (journal : List (Call b))

theorem addTrack_follows (track : Track) :
    Follows (sink.journaled.addTrack track) journal (sink.addTrack track)
      fun entries a a' => entries = [.told (.addTrack track a')] ∧ a = a' :=
  fun _ => ⟨_, _, rfl, rfl, rfl⟩

theorem inputFrame_follows (unit : AccessUnit) :
    Follows (sink.journaled.inputFrame unit) journal (sink.inputFrame unit)
      fun entries a a' => entries = [.told (.inputFrame unit a')] ∧ a = a' :=
  fun _ => ⟨_, _, rfl, rfl, rfl⟩

theorem tracksCompleted_follows :
    Follows sink.journaled.tracksCompleted journal sink.tracksCompleted
      fun entries _ _ => entries = [.told .tracksCompleted] :=
  fun _ => ⟨_, _, rfl, rfl⟩

theorem resetTracks_follows :
    Follows sink.journaled.resetTracks journal sink.resetTracks
      fun entries _ _ => entries = [.told .resetTracks] :=
  fun _ => ⟨_, _, rfl, rfl⟩

end Sink

/-- A value comes from the pool and nobody is asked, or it is made, and that is the one entry. -/
theorem Pool.obtain_follows {γ κ : Type} (fresh : Act σ γ) (entry : γ → κ) (recycle : γ → γ)
    (pool : Pool γ) (journal : List κ) :
    Follows (pool.obtain (fresh.recorded entry) recycle) journal (pool.obtain fresh recycle)
      fun entries a a' => a = a' ∧ ∀ call ∈ entries, ∃ made, call = entry made := by
  unfold Pool.obtain
  cases pool.idle with
  | nil =>
      refine (Follows.recorded fresh entry journal).bind ?_
      rintro _ made _ ⟨rfl, rfl⟩
      exact .pure ⟨rfl, fun call hcall => ⟨made, List.mem_singleton.mp hcall⟩⟩
  | cons used rest => exact .pure ⟨rfl, List.forall_mem_nil _⟩

/-- A picture for a stage is made, or it comes from the pool and nobody is asked. -/
theorem Engine.obtain_follows (e : Engine b σ) (pool : Pool (Picture b.Store))
    (journal : List (Call b)) :
    Follows (pool.obtain e.journaled.fresh e.journaled.recycle) journal
      (pool.obtain e.fresh e.recycle)
      fun entries a a' => a = a' ∧ ∀ call ∈ entries, call = .fresh := by
  refine (Pool.obtain_follows e.fresh (fun _ => .fresh) e.recycle pool journal).mono ?_
  rintro entries a _ ⟨rfl, hentries⟩
  exact ⟨rfl, fun call hcall => (hentries call hcall).elim fun _ heq => heq⟩

/-- The same selection of another context. -/
def Selection.map {γ γ' : Type} (f : γ → γ') : Selection γ → Selection γ'
  | .opened context implementation => .opened (f context) implementation
  | .unavailable => .unavailable
  | .initFailed implementation cause => .initFailed implementation cause

/-- A search that begins at a place of the journal makes calls of one sort only. If it
    finds a context, the last of them has opened it, and the context goes by its place. -/
structure Sought {γ κ : Type} (seeks : κ → Prop) (entry : ι → Bool → κ) (place : Nat)
    (entries : List κ) (a : Selection (Numbered γ)) (a' : Selection γ) : Prop where
  value : a' = a.map Numbered.context
  seeks : ∀ call ∈ entries, seeks call
  opens : ∀ context implementation, a = .opened context implementation →
    ∃ before found, entries = before ++ [entry found true]
      ∧ context.number = place + before.length

section

variable {γ κ : Type} {seeks : κ → Prop} {entry : ι → Bool → κ} {place : Nat}
  {a : Selection (Numbered γ)} {a' : Selection γ}

/-- The search may have gone on for a while before. -/
theorem Sought.append {entries more : List κ} (hentries : ∀ call ∈ entries, seeks call)
    (h : Sought seeks entry (place + entries.length) more a a') :
    Sought seeks entry place (entries ++ more) a a' := by
  refine ⟨h.value, List.forall_mem_append.mpr ⟨hentries, h.seeks⟩, ?_⟩
  intro context implementation hopened
  rcases h.opens context implementation hopened with ⟨before, found, rfl, hnumber⟩
  refine ⟨entries ++ before, found, (List.append_assoc ..).symm, ?_⟩
  rw [hnumber, List.length_append, Nat.add_assoc]

/-- A search asks for implementations and tries those it finds, and nothing else. A context that
    it settles on was opened by its last call. -/
theorem selectFrom_follows (seeks : κ → Prop) (looked : Lookup → κ) (entry : ι → Bool → κ)
    (hlooked : ∀ l, seeks (looked l)) (hentry : ∀ i opened, seeks (entry i opened))
    (codec : Codec) (find : Lookup → Act σ (Option ι)) (name : ι → String)
    (attempt : ι → Act σ (Except Cause γ)) (failures : Failures) (lookups : List Lookup)
    (journal : List κ) :
    Follows
      (selectFrom codec (fun l => (find l).recorded fun _ => looked l) name
        (fun i => (attempt i).journaled (fun opened => entry i opened.isOk)
          fun place opened => opened.map (Numbered.mk place)) failures lookups)
      journal (selectFrom codec find name attempt failures lookups)
      (Sought seeks entry journal.length) := by
  -- The induction is on the look-ups not tried yet. What was asked so far is behind us.
  induction lookups generalizing failures journal with
  | nil =>
      -- With no look-up left nothing more is asked, and no context is found.
      refine .pure ⟨?_, List.forall_mem_nil _, ?_⟩
      · cases failures <;> rfl
      · intro context implementation hopened
        cases failures <;> cases hopened
  | cons lookup lookups ih =>
      -- Whatever has been asked before, the search goes on in the same way.
      have hlater (failures : Failures) {entries : List κ} (h : ∀ call ∈ entries, seeks call) :=
        (ih failures (journal ++ entries)).mono fun more a a' hmore =>
          Sought.append h (List.length_append ▸ hmore)
      have hfound : ∀ call ∈ [looked lookup], seeks call :=
        List.forall_mem_singleton.mpr (hlooked lookup)
      rw [selectFrom, selectFrom]
      refine (Follows.recorded (find lookup) _ journal).bind ?_
      rintro _ found? _ ⟨rfl, rfl⟩
      cases found? with
      | none => exact hlater failures hfound
      | some found =>
          -- An implementation that has failed before is passed over, without a call.
          by_cases htried : (failures.map Prod.fst).contains (name found)
          · simp only [if_pos htried]
            exact hlater failures hfound
          · simp only [if_neg htried]
            refine (Follows.journaled (attempt found) _ _ _).bind ?_
            rintro _ _ opened ⟨rfl, rfl⟩
            have htried : ∀ call ∈ [looked lookup] ++ [entry found opened.isOk], seeks call :=
              List.forall_mem_append.mpr ⟨hfound, List.forall_mem_singleton.mpr (hentry found _)⟩
            cases opened with
            | ok context =>
                -- Found. The opening is the second entry, and its place numbers the context.
                refine .bind_note _ (.pure ⟨rfl, htried, ?_⟩)
                rintro _ _ ⟨⟩
                exact ⟨[looked lookup], found, rfl, List.length_append⟩
            | error cause =>
                -- The failure is remembered, and the search goes on behind both entries.
                have hmore := hlater ((name found, cause) :: failures) htried
                rw [← List.append_assoc] at hmore
                exact .bind_note _ hmore

end

/-- Opening a decode stage looks for a decoder. The one it holds was opened last. -/
theorem DecodeStage.build_follows (e : Engine b σ) (track : Track) (poolSize : Nat)
    (journal : List (Call b)) :
    Follows (DecodeStage.build e.journaled track poolSize) journal
      (DecodeStage.build e track poolSize)
      fun entries a a' => a' = a.map DecodeStage.bare ∧ (∀ call ∈ entries, call.SeeksDecoder)
        ∧ ∀ s, a = .ok s → ∃ before implementation,
            entries = before ++ [.openDecoder implementation track true]
              ∧ s.context.number = journal.length + before.length := by
  unfold DecodeStage.build
  refine (selectFrom_follows Call.SeeksDecoder .findDecoder (.openDecoder · track ·)
    (fun _ => trivial) (fun _ _ => trivial) track.codec e.findDecoder e.implementationName
    (e.openDecoder · track) [] _ journal).bind ?_
  rintro entries selection _ ⟨rfl, hseeks, hopens⟩
  -- Nothing is asked any more after the search. The entries of that are an empty rest.
  rw [← List.append_nil entries] at hseeks hopens
  cases selection with
  | opened context implementation =>
      refine .pure ⟨rfl, hseeks, ?_⟩
      rintro _ ⟨⟩
      exact hopens context implementation rfl
  | unavailable => exact .pure ⟨rfl, hseeks, fun _ heq => nomatch heq⟩
  | initFailed implementation cause => exact .pure ⟨rfl, hseeks, fun _ heq => nomatch heq⟩

/-- An encoder for pictures is asked for its formats once, and one for sound not at all. -/
theorem EncodeStage.formatsOf_follows (e : Engine b σ) (codec : Codec)
    (context : Numbered b.Encoder) (journal : List (Call b)) :
    Follows (EncodeStage.formatsOf e.journaled codec context) journal
      (EncodeStage.formatsOf e codec context.context)
      fun entries a a' => a = a' ∧ ∀ call ∈ entries, call.SeeksEncoder := by
  unfold EncodeStage.formatsOf
  by_cases hvideo : codec.isVideo = true
  · simp only [if_pos hvideo]
    refine (e.pixelFormats_follows journal context).bind ?_
    rintro _ formats _ ⟨rfl, rfl⟩
    have hasked : ∀ call ∈ [(.pixelFormats context.number : Call b)] ++ [],
        call.SeeksEncoder :=
      List.forall_mem_singleton.mpr trivial
    -- An encoder that names no format is refused, but it was asked all the same.
    cases formats with
    | nil => exact .pure ⟨rfl, hasked⟩
    | cons format formats => exact .pure ⟨rfl, hasked⟩
  · simp only [if_neg hvideo]
    exact .pure ⟨rfl, List.forall_mem_nil _⟩

/-- Opening an encode stage looks for an encoder and then asks for its formats. -/
theorem EncodeStage.build_follows (e : Engine b σ) (settings : Settings) (poolSize : Nat)
    (journal : List (Call b)) :
    Follows (EncodeStage.build e.journaled settings poolSize) journal
      (EncodeStage.build e settings poolSize)
      fun entries a a' => a' = a.map EncodeStage.bare ∧ (∀ call ∈ entries, call.SeeksEncoder)
        ∧ ∀ s, a = .ok s → ∃ before implementation after,
            entries = before ++ .openEncoder implementation settings true :: after
              ∧ s.context.number = journal.length + before.length := by
  unfold EncodeStage.build
  refine (selectFrom_follows Call.SeeksEncoder .findEncoder (.openEncoder · settings ·)
    (fun _ => trivial) (fun _ _ => trivial) settings.codec e.findEncoder e.implementationName
    (e.openEncoder · settings) [] _ journal).bind ?_
  rintro entries selection _ ⟨rfl, hseeks, hopens⟩
  cases selection with
  | opened context implementation =>
      -- The opening was the last call of the search. The question for the formats comes after
      -- it.
      rcases hopens context implementation rfl with ⟨before, found, rfl, hnumber⟩
      refine (formatsOf_follows e settings.codec context _).bind ?_
      rintro more formats _ ⟨rfl, hmore⟩
      have hboth := List.forall_mem_append.mpr ⟨hseeks, hmore⟩
      rw [← List.append_nil more] at hboth
      cases formats with
      | ok formats =>
          refine .pure ⟨rfl, hboth, ?_⟩
          rintro _ ⟨⟩
          exact ⟨before, found, more ++ [], List.append_assoc .., hnumber⟩
      | error cause => exact .pure ⟨rfl, hboth, fun _ heq => nomatch heq⟩
  | unavailable =>
      rw [← List.append_nil entries] at hseeks
      exact .pure ⟨rfl, hseeks, fun _ heq => nomatch heq⟩
  | initFailed implementation cause =>
      rw [← List.append_nil entries] at hseeks
      exact .pure ⟨rfl, hseeks, fun _ heq => nomatch heq⟩

/-- The journal has a decoder and an encoder for one kind of track, opened one after the
    other for the same chain: no other decoder was opened in between. -/
def Paired (kind : TrackType) (decoder encoder : Nat) (journal : List (Call b)) : Prop :=
  ∃ before found track between found' settings after,
    journal = before ++ .openDecoder found track true
      :: (between ++ .openEncoder found' settings true :: after)
    ∧ decoder = before.length ∧ encoder = before.length + 1 + between.length
    ∧ (∀ call ∈ between, call.SeeksEncoder)
    ∧ track.trackType = kind ∧ settings.trackType = kind

/-- Opening a chain opens a decoder and then an encoder. -/
theorem Chain.build_follows (e : Engine b σ) (track : Track) (settings : Settings)
    (poolSize : Nat) (hkind : settings.trackType = track.trackType) (journal : List (Call b)) :
    Follows (Chain.build e.journaled track settings poolSize) journal
      (Chain.build e track settings poolSize)
      fun entries a a' => a' = a.map Chain.bare
        ∧ (∀ call ∈ entries, call.SeeksDecoder ∨ call.SeeksEncoder)
        ∧ ∀ c, a = .ok c → journal.length ≤ c.decoder ∧ journal.length ≤ c.encoder
            ∧ Paired track.trackType c.decoder c.encoder (journal ++ entries) := by
  unfold Chain.build
  refine (DecodeStage.build_follows e track poolSize journal).bind ?_
  rintro entries decode _ ⟨rfl, hseeks, hdecode⟩
  have hseeks : ∀ call ∈ entries, call.SeeksDecoder ∨ call.SeeksEncoder :=
    fun call hcall => .inl (hseeks call hcall)
  cases decode with
  | error fault =>
      -- Without a decoder nobody looks for an encoder.
      rw [← List.append_nil entries] at hseeks
      exact .pure ⟨rfl, hseeks, fun _ heq => nomatch heq⟩
  | ok decode =>
      refine (EncodeStage.build_follows e settings poolSize _).bind ?_
      rintro more encode _ ⟨rfl, hmore, hencode⟩
      have hboth := List.forall_mem_append.mpr
        ⟨hseeks, fun call hcall => Or.inr (hmore call hcall)⟩
      rw [← List.append_nil more] at hboth
      cases encode with
      | error fault => exact .pure ⟨rfl, hboth, fun _ heq => nomatch heq⟩
      | ok encode =>
          refine .pure ⟨rfl, hboth, ?_⟩
          rintro _ ⟨⟩
          -- The decoder was opened last in its search, and the encoder's search came next.
          rcases hdecode decode rfl with ⟨before, found, rfl, hdecoder⟩
          rcases hencode encode rfl with ⟨between, found', after, rfl, hencoder⟩
          simp only [List.length_append, List.length_singleton] at hencoder
          -- Only the search for the encoder lies between the two openings.
          have hbetween : ∀ call ∈ between, call.SeeksEncoder := fun call hcall =>
            hmore call (List.mem_append_left _ hcall)
          refine ⟨?_, ?_, journal ++ before, found, track, between, found', settings, after ++ [],
            ?_, ?_, ?_, hbetween, rfl, hkind⟩
          · simp only [decoder]
            omega
          · simp only [encoder]
            omega
          · simp only [List.append_assoc, List.cons_append, List.nil_append]
          · rw [List.length_append]
            exact hdecoder
          · rw [List.length_append]
            simp only [encoder]
            omega

end Recode
