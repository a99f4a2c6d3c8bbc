import Mathlib
import Recode.Loopback
import Recode.Proofs.Activity
import Recode.Proofs.Opening

/-!
# The end of a stream

The first pull of a drain tells a context that its stream has ended, and from then on it
takes nothing more. The journal shows that no pipeline ever tries: a decoder is fed only
before its first pull, and so is an encoder. The encoder of a chain is pulled only after
the decoder of the same chain had nothing left to feed it with, and once a context has
reported its end, or failed, it is left alone.

A chain goes through three phases, and each call moves it on or leaves it where it is. It
is intact as long as only frames are put in. Its decoder drains while the encoder is still
fed, and after the last pull of the decoder the encoder drains. A chain in a lane is
intact, since a drain takes the chain out of its lane before it begins. So a drain that is
cut short by a fault of the sink leaves a chain behind that nobody can reach any more.

Two lanes do not get in each other's way, because contexts of different kinds have
different numbers.

## Main definitions

* `Call.InOrder`: What must have gone before a call, and what must not.
* `Orderly`: Every call of a journal is in order.
* `Intact`, `Draining`, `Emptied`: The phases of a chain.
* `Transcoder.Tidy`: The journal is orderly, and the chains at work are intact.

## Theorems

* `Intact.orderly`, `Draining.orderly`, `Emptied.orderly`: What each phase allows.
* `Intact.flush_orderly`: A drain is orderly, wherever it ends.
* `Transcoder.perform_tidy`: Every operation keeps a transcoder tidy.
* `Transcoder.run_orderly`: No context is used after its end.
-/

namespace Recode

open Act

variable {b : Backend} {σ : Type}

/-- A decoder for a kind of track was opened at this place. -/
def DecoderAt (kind : TrackType) (n : Nat) (journal : List (Call b)) : Prop :=
  ∃ found track, journal[n]? = some (.openDecoder found track true) ∧ track.trackType = kind

/-- An encoder for a kind of track was opened at this place. -/
def EncoderAt (kind : TrackType) (n : Nat) (journal : List (Call b)) : Prop :=
  ∃ found settings, journal[n]? = some (.openEncoder found settings true)
    ∧ settings.trackType = kind

/-- What must have gone before a call, and what must not. Only contexts that were opened
    are fed or drained. A context is fed only if it was never drained, and it is drained
    only if no drain of it has ended. An encoder is drained only after the drain of the
    decoder it is paired with has ended. -/
def Call.InOrder (before : List (Call b)) : Call b → Prop
  | .decode n _ _ => (∃ kind, DecoderAt kind n before)
      ∧ ∀ blank ended, .drainDecoder n blank ended ∉ before
  | .encode n _ => (∃ kind, EncoderAt kind n before) ∧ ∀ ended, .drainEncoder n ended ∉ before
  | .drainDecoder n _ _ => (∃ kind, DecoderAt kind n before)
      ∧ ∀ blank, .drainDecoder n blank true ∉ before
  | .drainEncoder n _ => (∃ kind decoder blank, Paired kind decoder n before
      ∧ .drainDecoder decoder blank true ∈ before) ∧ .drainEncoder n true ∉ before
  | _ => True

/-- Every call of the journal is in order. -/
def Orderly (journal : List (Call b)) : Prop :=
  ∀ before call after, journal = before ++ call :: after → call.InOrder before

section

variable {kind kind' : TrackType} {n decoder encoder : Nat} {journal entries : List (Call b)}
  {call : Call b}

theorem Orderly.nil : Orderly ([] : List (Call b)) := by
  intro before call after heq
  cases before <;> cases heq

/-- A journal stays orderly with one more call, if that call is in order behind it. -/
theorem Orderly.snoc (h : Orderly journal) (hcall : call.InOrder journal) :
    Orderly (journal ++ [call]) := by
  intro before call' after heq
  -- The call is the last one or one of the journal before.
  rcases List.eq_nil_or_concat after with rfl | ⟨rest, last, rfl⟩
  · rcases List.append_inj' heq rfl with ⟨rfl, hlast⟩
    cases hlast
    exact hcall
  · rw [List.concat_eq_append, ← List.cons_append, ← List.append_assoc] at heq
    exact h before call' rest (List.append_inj' heq rfl).1

/-- Calls that are allowed by something that they keep true. -/
theorem Orderly.extend {phase : List (Call b) → Prop} {allowed : Call b → Prop}
    (hstep : ∀ journal call, phase journal → allowed call →
      call.InOrder journal ∧ phase (journal ++ [call]))
    (h : Orderly journal) (hphase : phase journal) (hentries : ∀ call ∈ entries, allowed call) :
    Orderly (journal ++ entries) ∧ phase (journal ++ entries) := by
  -- The induction adds calls at the end, since a call is judged by all that was called before
  -- it.
  induction entries using List.reverseRecOn with
  | nil =>
      rw [List.append_nil]
      exact ⟨h, hphase⟩
  | append_singleton entries call ih =>
      rcases List.forall_mem_append.mp hentries with ⟨hentries, hcall⟩
      rcases ih hentries with ⟨horderly, hphase⟩
      rcases hstep _ call hphase (hcall call (List.mem_singleton_self call)) with ⟨hcall, hphase⟩
      rw [← List.append_assoc]
      exact ⟨horderly.snoc hcall, hphase⟩

theorem DecoderAt.lt (h : DecoderAt kind n journal) : n < journal.length := by
  rcases h with ⟨found, track, hn, -⟩
  exact (List.getElem?_eq_some_iff.mp hn).1

theorem EncoderAt.lt (h : EncoderAt kind n journal) : n < journal.length := by
  rcases h with ⟨found, settings, hn, -⟩
  exact (List.getElem?_eq_some_iff.mp hn).1

/-- A place holds one entry, so contexts of different kinds have different numbers. -/
theorem DecoderAt.kind_eq (h : DecoderAt kind n journal) (h' : DecoderAt kind' n journal) :
    kind = kind' := by
  rcases h with ⟨found, track, hn, rfl⟩
  rcases h' with ⟨found', track', hn', rfl⟩
  cases hn.symm.trans hn'
  rfl

theorem EncoderAt.kind_eq (h : EncoderAt kind n journal) (h' : EncoderAt kind' n journal) :
    kind = kind' := by
  rcases h with ⟨found, settings, hn, rfl⟩
  rcases h' with ⟨found', settings', hn', rfl⟩
  cases hn.symm.trans hn'
  rfl

namespace Paired

theorem append (h : Paired kind decoder encoder journal) (more : List (Call b)) :
    Paired kind decoder encoder (journal ++ more) := by
  rcases h with ⟨before, found, track, between, found', settings, after, rfl, hrest⟩
  refine ⟨before, found, track, between, found', settings, after ++ more, ?_, hrest⟩
  simp only [List.append_assoc, List.cons_append]

theorem decoderAt (h : Paired kind decoder encoder journal) : DecoderAt kind decoder journal := by
  rcases h with ⟨before, found, track, between, found', settings, after, rfl, rfl, -, -, hkind, -⟩
  exact ⟨found, track, by simp, hkind⟩

/-- The encoder of the two was opened at its place. -/
theorem encoderAt (h : Paired kind decoder encoder journal) : EncoderAt kind encoder journal := by
  rcases h with ⟨before, found, track, between, found', settings, after, rfl, -, rfl, -, -, hkind⟩
  refine ⟨found', settings, ?_, hkind⟩
  -- The encoder stands behind the opening of the decoder and all that lies between the two.
  rw [Nat.add_assoc, List.getElem?_append_right (Nat.le_add_right ..), Nat.add_sub_cancel_left,
    Nat.add_comm 1, List.getElem?_cons_succ]
  simp

end Paired

end

/-- A call that neither feeds nor drains a context. -/
def Call.Idle : Call b → Prop
  | .decode .. | .drainDecoder .. | .encode .. | .drainEncoder .. => False
  | _ => True

/-- A call made for a frame put into the chain of these contexts. -/
def Call.Feeds (decoder encoder : Nat) (call : Call b) : Prop :=
  (∃ packet blank, call = .decode decoder packet blank) ∨ call.Encodes encoder

/-- A call that drains neither of these contexts. -/
def Call.Spares (decoder encoder : Nat) : Call b → Prop
  | .drainDecoder n _ _ => n ≠ decoder
  | .drainEncoder n _ => n ≠ encoder
  | _ => True

section

variable {kind kind' : TrackType} {decoder encoder decoder' encoder' : Nat}
  {journal entries : List (Call b)} {call : Call b}

theorem Call.Idle.inOrder (h : call.Idle) (journal : List (Call b)) : call.InOrder journal := by
  cases call <;> first | exact trivial | exact h.elim

theorem Call.Idle.spares (h : call.Idle) (decoder encoder : Nat) :
    call.Spares decoder encoder := by
  cases call <;> first | exact trivial | exact h.elim

theorem Call.Encodes.spares (h : call.Encodes encoder') (decoder encoder : Nat) :
    call.Spares decoder encoder := by
  cases call <;> first | exact trivial | exact h.elim

theorem Call.Feeds.spares (h : call.Feeds decoder' encoder') (decoder encoder : Nat) :
    call.Spares decoder encoder := by
  rcases h with ⟨packet, blank, rfl⟩ | h
  · trivial
  · exact h.spares decoder encoder

theorem Call.DrainsDecoder.spares (h : call.DrainsDecoder decoder' encoder')
    (hdecoder : decoder' ≠ decoder) (encoder : Nat) : call.Spares decoder encoder := by
  rcases h with ⟨blank, rfl⟩ | h
  · exact hdecoder
  · exact h.spares decoder encoder

/-- Draining an encoder spares the contexts of a chain with another encoder. -/
theorem Call.DrainsEncoder.spares (h : call.DrainsEncoder encoder') (decoder : Nat)
    (hencoder : encoder' ≠ encoder) : call.Spares decoder encoder := by
  cases call with
  | drainEncoder n ended =>
      rcases h with ⟨rfl, -⟩
      exact hencoder
  | told call => trivial
  | _ => exact h.elim

/-- Making a frame into an encoded one is in order as long as the encoder was not drained. -/
theorem Call.Encodes.inOrder (h : call.Encodes encoder) (hencoder : EncoderAt kind encoder journal)
    (hundrained : ∀ ended, .drainEncoder encoder ended ∉ journal) : call.InOrder journal := by
  cases call with
  | encode n picture =>
      cases h
      exact ⟨⟨kind, hencoder⟩, hundrained⟩
  | openConverter | convert | fresh | told => trivial
  | _ => exact h.elim

/-- The contexts of a chain to which frames were put in only. -/
structure Intact (kind : TrackType) (decoder encoder : Nat) (journal : List (Call b)) : Prop where
  paired : Paired kind decoder encoder journal
  decoder : ∀ blank ended, .drainDecoder decoder blank ended ∉ journal
  encoder : ∀ ended, .drainEncoder encoder ended ∉ journal

/-- The contexts of a chain whose decoder is being drained. -/
structure Draining (kind : TrackType) (decoder encoder : Nat) (journal : List (Call b)) :
    Prop where
  paired : Paired kind decoder encoder journal
  decoder : ∀ blank, .drainDecoder decoder blank true ∉ journal
  encoder : ∀ ended, .drainEncoder encoder ended ∉ journal

/-- The contexts of a chain whose decoder is empty, while its encoder is being drained. -/
structure Emptied (kind : TrackType) (decoder encoder : Nat) (journal : List (Call b)) :
    Prop where
  paired : Paired kind decoder encoder journal
  decoder : ∃ blank, .drainDecoder decoder blank true ∈ journal
  encoder : .drainEncoder encoder true ∉ journal

namespace Intact

/-- What spares the contexts of a chain leaves it intact. -/
theorem append (h : Intact kind decoder encoder journal)
    (hentries : ∀ call ∈ entries, call.Spares decoder encoder) :
    Intact kind decoder encoder (journal ++ entries) := by
  refine ⟨h.paired.append entries, fun blank ended hmem => ?_, fun ended hmem => ?_⟩
  · rcases List.mem_append.mp hmem with hmem | hmem
    · exact h.decoder blank ended hmem
    · exact hentries _ hmem rfl
  · rcases List.mem_append.mp hmem with hmem | hmem
    · exact h.encoder ended hmem
    · exact hentries _ hmem rfl

/-- Frames may be put into a chain that is intact. -/
theorem orderly (h : Intact kind decoder encoder journal) (hjournal : Orderly journal)
    (hentries : ∀ call ∈ entries, call.Feeds decoder encoder) : Orderly (journal ++ entries) := by
  refine (hjournal.extend ?_ h hentries).1
  intro journal call h hcall
  refine ⟨?_, h.append (List.forall_mem_singleton.mpr (hcall.spares _ _))⟩
  -- The decoder is fed, or its frame is encoded. Neither of the two was drained before.
  rcases hcall with ⟨packet, blank, rfl⟩ | hcall
  · exact ⟨⟨kind, h.paired.decoderAt⟩, h.decoder⟩
  · exact hcall.inOrder h.paired.encoderAt h.encoder

/-- Contexts that were only just opened have numbers that no earlier call has used. -/
theorem ofNew (hjournal : Orderly journal) (hentries : ∀ call ∈ entries, call.Idle)
    (hdecoder : journal.length ≤ decoder) (hencoder : journal.length ≤ encoder)
    (hpaired : Paired kind decoder encoder (journal ++ entries)) :
    Intact kind decoder encoder (journal ++ entries) := by
  refine ⟨hpaired, fun blank ended hmem => ?_, fun ended hmem => ?_⟩
  · rcases List.mem_append.mp hmem with hmem | hmem
    · rcases List.append_of_mem hmem with ⟨before, after, rfl⟩
      rcases hjournal before _ after rfl with ⟨⟨kind, hat⟩, -⟩
      -- An orderly drain comes after the opening, and there was no such opening yet.
      have hlt := hat.lt
      simp only [List.length_append] at hdecoder
      omega
    · exact (hentries _ hmem).elim
  · rcases List.mem_append.mp hmem with hmem | hmem
    · rcases List.append_of_mem hmem with ⟨before, after, rfl⟩
      -- The same of the encoder, which an orderly drain finds paired.
      rcases hjournal before _ after rfl with ⟨⟨kind, decoder, blank, hpaired, -⟩, -⟩
      have hlt := hpaired.encoderAt.lt
      simp only [List.length_append] at hencoder
      omega
    · exact (hentries _ hmem).elim

theorem draining (h : Intact kind decoder encoder journal) :
    Draining kind decoder encoder journal :=
  { paired := h.paired, decoder := fun blank => h.decoder blank true, encoder := h.encoder }

end Intact

theorem not_mem_snoc {α : Type} {l : List α} {a a' : α} (h : a ∉ l) (ha : a' ≠ a) :
    a ∉ l ++ [a'] := by
  intro hmem
  rcases List.mem_append.mp hmem with hmem | hmem
  · exact h hmem
  · exact ha (List.mem_singleton.mp hmem).symm

namespace Draining

/-- While its decoder is drained, the encoder of a chain may still be fed. -/
theorem orderly (h : Draining kind decoder encoder journal) (hjournal : Orderly journal)
    (hentries : ∀ call ∈ entries, call.DrainsDecoder decoder encoder) :
    Orderly (journal ++ entries) ∧ Draining kind decoder encoder (journal ++ entries) := by
  refine hjournal.extend ?_ h hentries
  intro journal call h hcall
  -- The decoder is pulled once more, or the frame that it yielded is encoded.
  rcases hcall with ⟨blank, rfl⟩ | hcall
  · refine ⟨⟨⟨kind, h.paired.decoderAt⟩, h.decoder⟩, h.paired.append _, ?_, ?_⟩
    · exact fun blank' => not_mem_snoc (h.decoder blank') fun heq => nomatch heq
    · exact fun ended => not_mem_snoc (h.encoder ended) fun heq => nomatch heq
  · refine ⟨hcall.inOrder h.paired.encoderAt h.encoder, h.paired.append _, ?_, ?_⟩
    · exact fun blank => not_mem_snoc (h.decoder blank) fun heq => by rw [heq] at hcall; exact hcall
    · exact fun ended => not_mem_snoc (h.encoder ended) fun heq => by rw [heq] at hcall; exact hcall

/-- The last pull of the decoder. -/
theorem emptied (h : Draining kind decoder encoder journal) (blank : Picture b.Store) :
    Call.InOrder journal (.drainDecoder decoder blank true)
      ∧ Emptied kind decoder encoder (journal ++ [.drainDecoder decoder blank true]) := by
  refine ⟨⟨⟨kind, h.paired.decoderAt⟩, h.decoder⟩, h.paired.append _, ⟨blank, ?_⟩, ?_⟩
  · exact List.mem_append_right _ (List.mem_singleton_self _)
  · exact not_mem_snoc (h.encoder true) fun heq => nomatch heq

end Draining

/-- When its decoder is empty, the encoder of a chain may be drained. -/
theorem Emptied.orderly (h : Emptied kind decoder encoder journal) (hjournal : Orderly journal)
    (hentries : ∀ call ∈ entries, call.DrainsEncoder encoder) :
    Orderly (journal ++ entries) ∧ Emptied kind decoder encoder (journal ++ entries) := by
  refine hjournal.extend ?_ h hentries
  intro journal call h hcall
  rcases h.decoder with ⟨blank, hblank⟩
  have hblank' : .drainDecoder decoder blank true ∈ journal ++ [call] :=
    List.mem_append_left _ hblank
  -- The encoder is pulled once more, or the sink is told of its packet.
  cases call with
  | drainEncoder n ended =>
      rcases hcall with ⟨rfl, rfl⟩
      refine ⟨⟨⟨kind, decoder, blank, h.paired, hblank⟩, h.encoder⟩, h.paired.append _,
        ⟨blank, hblank'⟩, ?_⟩
      exact not_mem_snoc h.encoder fun heq => nomatch heq
  | told call =>
      refine ⟨trivial, h.paired.append _, ⟨blank, hblank'⟩, ?_⟩
      exact not_mem_snoc h.encoder fun heq => nomatch heq
  | _ => exact hcall.elim

/-- The drain of a chain is orderly, however it ends. -/
theorem Intact.flush_orderly {outcome : Except Fault Unit}
    (h : Intact kind decoder encoder journal) (hjournal : Orderly journal)
    (hflushed : Flushed decoder encoder entries outcome) : Orderly (journal ++ entries) := by
  cases hflushed with
  | cutShort hdrained => exact (h.draining.orderly hjournal hdrained).1
  | through hdrained hencoded =>
      rcases hdrained with ⟨during, _, rfl, hduring, blank, rfl⟩
      rcases h.draining.orderly hjournal hduring with ⟨horderly, hdraining⟩
      rcases hdraining.emptied blank with ⟨hcall, hemptied⟩
      have horderly := horderly.snoc hcall
      rw [List.append_assoc] at horderly hemptied
      rw [← List.append_assoc]
      -- The encoder drains in a journal that has the end of the decoder in it.
      cases outcome with
      | error fault => exact (hemptied.orderly horderly hencoded).1
      | ok _ =>
          rcases hencoded with ⟨during', _, rfl, hduring', rfl⟩
          rcases hemptied.orderly horderly hduring' with ⟨horderly, hemptied⟩
          rcases hemptied.decoder with ⟨blank, hblank⟩
          rw [← List.append_assoc]
          exact horderly.snoc ⟨⟨kind, decoder, blank, hemptied.paired, hblank⟩, hemptied.encoder⟩

/-- The drain of a chain concerns its own contexts only. -/
theorem Flushed.spares {outcome : Except Fault Unit} (h : Flushed decoder' encoder' entries outcome)
    (hdecoder : decoder' ≠ decoder) (hencoder : encoder' ≠ encoder) :
    ∀ call ∈ entries, call.Spares decoder encoder := by
  cases h with
  | cutShort hdrained => exact fun call hcall => (hdrained call hcall).spares hdecoder encoder
  | through hdrained hencoded =>
      rcases hdrained with ⟨during, _, rfl, hduring, blank, rfl⟩
      have hduring : ∀ call ∈ during, call.Spares decoder encoder :=
        fun call hcall => (hduring call hcall).spares hdecoder encoder
      simp only [List.forall_mem_append, List.forall_mem_singleton]
      refine ⟨⟨hduring, hdecoder⟩, ?_⟩
      -- However far the encoder was drained, these were calls on it.
      cases outcome with
      | error fault => exact fun call hcall => (hencoded call hcall).spares decoder hencoder
      | ok _ =>
          rcases hencoded with ⟨during', _, rfl, hduring', rfl⟩
          exact List.forall_mem_append.mpr
            ⟨fun call hcall => (hduring' call hcall).spares decoder hencoder,
              List.forall_mem_singleton.mpr hencoder⟩

end

namespace Chain

variable {kind : TrackType} {c : Chain b.numbered} {journal : List (Call b)}

/-- Putting a frame into a chain is orderly, and concerns no context of another chain. -/
theorem input_orderly (e : Engine b σ) (sink : Sink σ) (unit : AccessUnit)
    (hjournal : Orderly journal) (h : Intact kind c.decoder c.encoder journal) :
    Follows (c.input e.journaled sink.journaled unit) journal (c.bare.input e sink unit)
      fun entries a a' => a' = (a.1, a.2.bare) ∧ a.2.decoder = c.decoder
        ∧ a.2.encoder = c.encoder ∧ Orderly (journal ++ entries)
        ∧ ∀ decoder encoder, ∀ call ∈ entries, call.Spares decoder encoder := by
  refine (input_follows e sink unit c journal).mono ?_
  rintro entries a a' ⟨rfl, -, hdecoder, hencoder, before, blank, after, rfl, hbefore, hafter⟩
  -- Pictures are made, the frame is decoded, and what comes out is encoded.
  have hfeeds : ∀ call ∈ before ++ .decode c.decoder ⟨unit.data, unit.dts, unit.pts⟩ blank
      :: after, call.Feeds c.decoder c.encoder := by
    refine List.forall_mem_append.mpr ⟨fun call hcall => ?_, List.forall_mem_cons.mpr
      ⟨.inl ⟨_, blank, rfl⟩, fun call hcall => .inr (hafter call hcall)⟩⟩
    rw [hbefore call hcall]
    exact .inr trivial
  exact ⟨rfl, hdecoder, hencoder, h.orderly hjournal hfeeds,
    fun decoder encoder call hcall => (hfeeds call hcall).spares decoder encoder⟩

/-- Draining a chain is orderly, and concerns no context of another chain. -/
theorem flush_orderly (e : Engine b σ) (sink : Sink σ) (hjournal : Orderly journal)
    (h : Intact kind c.decoder c.encoder journal) :
    Follows (c.flush e.journaled sink.journaled) journal (c.bare.flush e sink)
      fun entries a a' => a' = a ∧ Orderly (journal ++ entries)
        ∧ ∀ decoder encoder, c.decoder ≠ decoder → c.encoder ≠ encoder →
          ∀ call ∈ entries, call.Spares decoder encoder := by
  refine (flush_follows e sink c journal).mono ?_
  rintro entries a a' ⟨rfl, hflushed⟩
  exact ⟨rfl, h.flush_orderly hjournal hflushed,
    fun decoder encoder hdecoder hencoder => hflushed.spares hdecoder hencoder⟩

end Chain

namespace Transcoder

variable {t : Transcoder b.numbered} {kind : TrackType} {journal entries : List (Call b)}

theorem bare_get (t : Transcoder b.numbered) (kind : TrackType) :
    t.bare.lanes.get kind = (t.lanes.get kind).map Chain.bare := by
  cases kind <;> rfl

theorem setLane_bare (t : Transcoder b.numbered) (kind : TrackType)
    (chain? : Option (Chain b.numbered)) :
    (t.setLane kind chain?).bare = t.bare.setLane kind (chain?.map Chain.bare) := by
  cases kind <;> rfl

/-- The journal so far is orderly, and the chains at work are intact. -/
structure Tidy (t : Transcoder b.numbered) (journal : List (Call b)) : Prop where
  orderly : Orderly journal
  intact : ∀ kind c, t.lanes.get kind = some c → Intact kind c.decoder c.encoder journal

namespace Tidy

theorem idle (h : t.Tidy journal) (hentries : ∀ call ∈ entries, call.Idle) :
    t.Tidy (journal ++ entries) := by
  refine ⟨?_, fun kind c hc => ?_⟩
  · have hstep : ∀ (journal : List (Call b)) (call : Call b), True → call.Idle →
        call.InOrder journal ∧ True := fun journal call _ hcall => ⟨hcall.inOrder journal, trivial⟩
    exact (h.orderly.extend hstep trivial hentries).1
  · exact (h.intact kind c hc).append fun call hcall => (hentries call hcall).spares _ _

/-- A lane may be emptied, or given a chain that is intact. -/
theorem setLane (h : t.Tidy journal) (kind : TrackType) (chain? : Option (Chain b.numbered))
    (hchain : ∀ c, chain? = some c → Intact kind c.decoder c.encoder journal) :
    (t.setLane kind chain?).Tidy journal := by
  refine ⟨h.orderly, fun k c hc => ?_⟩
  by_cases hk : k = kind
  · subst hk
    rw [get_setLane_self] at hc
    exact hchain c hc
  · rw [get_setLane_of_ne _ hk] at hc
    exact h.intact k c hc

/-- What one chain does leaves the chain of the other lane intact. -/
theorem act (h : t.Tidy journal) {c : Chain b.numbered} (hc : t.lanes.get kind = some c)
    (hjournal : Orderly (journal ++ entries))
    (hentries : ∀ decoder encoder, c.decoder ≠ decoder → c.encoder ≠ encoder →
      ∀ call ∈ entries, call.Spares decoder encoder)
    (chain? : Option (Chain b.numbered))
    (hchain : ∀ c', chain? = some c' → Intact kind c'.decoder c'.encoder (journal ++ entries)) :
    (t.setLane kind chain?).Tidy (journal ++ entries) := by
  refine ⟨hjournal, fun k c' hc' => ?_⟩
  by_cases hk : k = kind
  · subst hk
    rw [get_setLane_self] at hc'
    exact hchain c' hc'
  · rw [get_setLane_of_ne _ hk] at hc'
    have hother := h.intact k c' hc'
    have hpaired := (h.intact kind c hc).paired
    -- The contexts are of different kinds, so they have different numbers.
    refine hother.append (hentries _ _ (fun heq => hk ?_) fun heq => hk ?_)
    · exact hother.paired.decoderAt.kind_eq (heq ▸ hpaired.decoderAt)
    · exact hother.paired.encoderAt.kind_eq (heq ▸ hpaired.encoderAt)

/-- An operation may say something to the sink before it ends. -/
theorem told (h : t.Tidy journal) (call : SinkCall) : t.Tidy (journal ++ ([.told call] ++ [])) :=
  h.idle (List.forall_mem_singleton.mpr trivial)

end Tidy

/-- A chain that is opened for a track has contexts of its own, and takes the place of the one
    before. -/
theorem addTrack_tidy (e : Engine b σ) (sink : Sink σ) (track : Track) (h : t.Tidy journal) :
    Follows (t.addTrack e.journaled sink.journaled track) journal (t.bare.addTrack e sink track)
      fun entries a a' => a' = (a.1, a.2.bare) ∧ a.2.Tidy (journal ++ entries) := by
  -- The chain before is given up first, whatever comes of the new one.
  have hempty : (t.setLane track.trackType none).Tidy journal :=
    h.setLane track.trackType none fun c hc => nomatch hc
  have hbare := t.setLane_bare track.trackType none
  unfold addTrack
  by_cases hsame : track.codec = t.target track.trackType
  · have hsame' : track.codec = t.bare.target track.trackType := hsame
    simp only [if_pos hsame, if_pos hsame']
    refine .bind_note _ ((sink.addTrack_follows journal track).bind ?_)
    rintro _ answer _ ⟨rfl, rfl⟩
    exact .pure ⟨by rw [hbare]; rfl, hempty.told _⟩
  · have hsame' : ¬track.codec = t.bare.target track.trackType := hsame
    simp only [if_neg hsame, if_neg hsame']
    have hkind : (Settings.ofTrack (t.target track.trackType) track).trackType
        = track.trackType := by
      rw [Settings.trackType, Settings.ofTrack_codec]
      exact Config.target_trackType t.usable _
    refine (Chain.build_follows e track _ _ hkind journal).bind ?_
    rintro entries built _ ⟨rfl, hentries, hbuilt⟩
    -- Nothing that is asked while a chain is opened feeds or drains a context.
    have hidle : ∀ call ∈ entries, call.Idle := by
      intro call hcall
      cases call <;> first | exact trivial | exact (hentries _ hcall).elim id id
    cases built with
    | error fault =>
        refine .pure ⟨by rw [hbare]; rfl, ?_⟩
        rw [List.append_nil]
        exact hempty.idle hidle
    | ok c =>
        -- The numbers are places behind the journal so far, so nothing in it concerns these
        -- contexts.
        rcases hbuilt c rfl with ⟨hdecoder, hencoder, hpaired⟩
        have hintact : Intact track.trackType c.decoder c.encoder (journal ++ entries) :=
          .ofNew h.orderly hidle hdecoder hencoder hpaired
        have hadded : (t.setLane track.trackType (some c)).Tidy (journal ++ entries) := by
          refine (h.idle hidle).setLane track.trackType _ ?_
          rintro _ ⟨⟩
          exact hintact
        refine .bind_note _ ((sink.addTrack_follows _ _).bind ?_)
        rintro _ answer _ ⟨rfl, rfl⟩
        refine .pure ⟨?_, ?_⟩
        · rw [setLane_bare, hbare]
          rfl
        · rw [setLane_setLane, ← List.append_assoc]
          exact hadded.told _

/-- A frame is forwarded, put into the chain of its lane, or refused. -/
theorem inputFrame_tidy (e : Engine b σ) (sink : Sink σ) (unit : AccessUnit)
    (h : t.Tidy journal) :
    Follows (t.inputFrame e.journaled sink.journaled unit) journal
      (t.bare.inputFrame e sink unit)
      fun entries a a' => a' = (a.1, a.2.bare) ∧ a.2.Tidy (journal ++ entries) := by
  have hnothing : t.Tidy (journal ++ []) := by
    rw [List.append_nil]
    exact h
  have hget := t.bare_get unit.trackType
  unfold inputFrame
  by_cases hsame : unit.codec = t.target unit.trackType
  · have hsame' : unit.codec = t.bare.target unit.trackType := hsame
    simp only [if_pos hsame, if_pos hsame']
    refine (sink.inputFrame_follows journal unit).bind ?_
    rintro _ answer _ ⟨rfl, rfl⟩
    exact .pure ⟨rfl, h.told _⟩
  · have hsame' : ¬unit.codec = t.bare.target unit.trackType := hsame
    simp only [if_neg hsame, if_neg hsame', hget]
    rcases hc : t.lanes.get unit.trackType with _ | c
    · exact .bind_note _ (.pure ⟨rfl, hnothing⟩)
    · -- A chain that decodes another codec is of no use, as if there were none.
      by_cases hcodec : c.decode.codec = unit.codec
      · have hcodec' : c.bare.decode.codec = unit.codec := hcodec
        simp only [Option.map_some, if_pos hcodec, if_pos hcodec']
        have hintact := h.intact _ c hc
        refine (c.input_orderly e sink unit h.orderly hintact).bind ?_
        rintro entries ⟨outcome, c'⟩ _ ⟨rfl, hdecoder, hencoder, horderly, hspares⟩
        refine .pure ⟨by rw [setLane_bare]; rfl, ?_⟩
        rw [List.append_nil]
        refine h.act hc horderly (fun decoder encoder _ _ => hspares decoder encoder) _ ?_
        rintro _ ⟨⟩
        simp only at hdecoder hencoder
        rw [hdecoder, hencoder]
        exact hintact.append (hspares _ _)
      · have hcodec' : ¬c.bare.decode.codec = unit.codec := hcodec
        simp only [Option.map_some, if_neg hcodec, if_neg hcodec']
        exact .bind_note _ (.pure ⟨rfl, hnothing⟩)

/-- Draining a lane is orderly, and no chain is left in it. -/
theorem flushLane_tidy (e : Engine b σ) (sink : Sink σ) (kind : TrackType) (h : t.Tidy journal) :
    Follows (t.flushLane e.journaled sink.journaled kind) journal (t.bare.flushLane e sink kind)
      fun entries a a' => a' = (a.1, a.2.bare) ∧ a.2.Tidy (journal ++ entries) := by
  have hget := t.bare_get kind
  unfold flushLane
  simp only [hget]
  rcases hc : t.lanes.get kind with _ | c
  · exact .pure ⟨rfl, by rw [List.append_nil]; exact h⟩
  · -- The chain is taken out of its lane first, so nobody reaches it after its drain.
    refine (c.flush_orderly e sink h.orderly (h.intact kind c hc)).bind ?_
    rintro entries _ outcome ⟨rfl, horderly, hspares⟩
    -- The drain was orderly wherever it ended, and there is no next call on these contexts.
    have hdone : (t.setLane kind none).Tidy (journal ++ entries) :=
      h.act hc horderly hspares none fun _ heq => nomatch heq
    have hbare := t.setLane_bare kind none
    cases outcome with
    | error fault => exact .pure ⟨by rw [hbare]; rfl, by rw [List.append_nil]; exact hdone⟩
    | ok _ =>
        exact .bind_note _ (.pure ⟨by rw [hbare]; rfl, by rw [List.append_nil]; exact hdone⟩)

theorem flush_tidy (e : Engine b σ) (sink : Sink σ) (h : t.Tidy journal) :
    Follows (t.flush e.journaled sink.journaled) journal (t.bare.flush e sink)
      fun entries a a' => a' = (a.1, a.2.bare) ∧ a.2.Tidy (journal ++ entries) := by
  unfold flush
  refine (flushLane_tidy e sink .audio h).bind ?_
  rintro entries ⟨outcome, t'⟩ _ ⟨rfl, htidy⟩
  cases outcome with
  | error fault => exact .pure ⟨rfl, by rw [List.append_nil]; exact htidy⟩
  | ok _ =>
      refine (flushLane_tidy e sink .video htidy).mono ?_
      rintro more a a' ⟨rfl, hmore⟩
      rw [← List.append_assoc]
      exact ⟨rfl, hmore⟩

/-- Every operation keeps the journal orderly and the chains at work intact, and does what it
    does without a journal. -/
theorem perform_tidy (e : Engine b σ) (sink : Sink σ) (op : Operation) (h : t.Tidy journal) :
    Follows (t.perform e.journaled sink.journaled op) journal (t.bare.perform e sink op)
      fun entries a a' => a' = (a.1, a.2.bare) ∧ a.2.Tidy (journal ++ entries) := by
  cases op with
  | addTrack track => exact addTrack_tidy e sink track h
  | inputFrame unit => exact inputFrame_tidy e sink unit h
  | flush => exact flush_tidy e sink h
  | tracksCompleted =>
      refine (sink.tracksCompleted_follows journal).bind ?_
      rintro _ _ _ rfl
      exact .pure ⟨rfl, h.told _⟩
  | resetTracks =>
      simp only [perform, resetTracks, bind_assoc, pure_bind]
      refine (sink.resetTracks_follows journal).bind ?_
      rintro _ _ _ rfl
      -- Both chains are given up, undrained. Nothing is asked of their contexts any more.
      refine .pure ⟨rfl, (h.told _).orderly, fun kind c hc => ?_⟩
      cases kind <;> cases hc

/-- So does a whole history. -/
theorem run_tidy (e : Engine b σ) (sink : Sink σ) (ops : List Operation) (h : t.Tidy journal) :
    Follows (t.run e.journaled sink.journaled ops) journal (t.bare.run e sink ops)
      fun entries a a' => a' = (a.1, a.2.bare) ∧ a.2.Tidy (journal ++ entries) := by
  -- The induction is on the history. The journal may have any orderly beginning.
  induction ops generalizing t journal with
  | nil => exact .pure ⟨rfl, by rw [List.append_nil]; exact h⟩
  | cons op ops ih =>
      refine (perform_tidy e sink op h).bind ?_
      rintro entries ⟨outcome, t'⟩ _ ⟨rfl, htidy⟩
      refine (ih htidy).bind ?_
      rintro more ⟨outcomes, t''⟩ _ ⟨rfl, hmore⟩
      refine .pure ⟨rfl, ?_⟩
      rw [List.append_nil, ← List.append_assoc]
      exact hmore

theorem ofConfig_tidy {config : Config} (h : ofConfig config = .ok t) : t.Tidy [] := by
  rcases ofConfig_ok h with ⟨-, hlanes⟩
  refine ⟨.nil, fun kind c hc => ?_⟩
  rw [hlanes] at hc
  cases kind <;> cases hc

/-- A transcoder begins the same with and without numbers. -/
theorem ofConfig_bare {config : Config} (h : ofConfig config = .ok t) :
    ofConfig config = .ok t.bare := by
  unfold ofConfig at h ⊢
  split at h
  · cases h
    rfl
  · cases h

/-- No context is used after its end. Take any history of a transcoder, with any engine and
    any sink, and with every call written to a journal. The journal changes nothing else, and
    it is orderly. No decoder and no encoder is fed once a pull on it was tried, none is pulled
    again after it was empty or failed, and no encoder is pulled before the last pull of the
    decoder that was opened with it. -/
theorem run_orderly (config : Config) (start : Transcoder b.numbered)
    (hstart : ofConfig config = .ok start) (e : Engine b σ) (sink : Sink σ)
    (ops : List Operation) (w : σ) :
    let alone := start.bare.run e sink ops w
    let journaled := start.run e.journaled sink.journaled ops ([], w)
    ∃ journal t, ofConfig config = .ok start.bare
      ∧ journaled = ⟨(alone.value.1, t), alone.notes, (journal, alone.world)⟩
      ∧ t.bare = alone.value.2
      ∧ Orderly journal := by
  intro alone journaled
  rcases run_tidy e sink ops (ofConfig_tidy hstart) w with
    ⟨journal, ⟨outcomes, t⟩, hrun, hvalue, htidy⟩
  refine ⟨journal, t, ofConfig_bare hstart, ?_, ?_, htidy.orderly⟩
  · rw [hvalue]
    exact hrun
  · exact (congrArg Prod.snd hvalue).symm

/-- Two streams of sound, on a decoder and an encoder that keep back a frame each. The sink
    refuses the first frame it is offered, in the middle of the first drain. The decoder of
    that chain never gets to its end, and its encoder is never pulled. The second chain, on
    contexts of its own, is drained to the end. -/
theorem run_orderly_two_streams :
    let start : Transcoder Loopback.backend.numbered :=
      { config := .default, usable := rfl, lanes := ⟨none, none⟩ }
    let e := Loopback.engine { decoderDelay := 1, encoderDelay := 1 }
    let sink : Sink Loopback.Tally := .taking (fun _ => pure (.ok ())) fun unit =>
      pure (if unit.dts = 0 then .error (.sink ⟨"full", []⟩) else .ok ())
    let ops : List Operation :=
      [.addTrack (.audio .aac 48000 2), .inputFrame ⟨.aac, 0, 0, [1]⟩,
        .inputFrame ⟨.aac, 20, 20, [2]⟩, .flush,
        .addTrack (.audio .aac 48000 2), .inputFrame ⟨.aac, 40, 40, [3]⟩, .flush]
    let journal := (start.run e.journaled sink.journaled ops ([], {})).world.1
    ofConfig .default = .ok start ∧ Orderly journal
      ∧ journal[9]? = some (.drainDecoder 1 (.blank []) false)
      ∧ journal.getLast? = some (.drainEncoder 15 true) := by
  intro start e sink ops journal
  have hdrains : journal[9]? = some (.drainDecoder 1 (.blank []) false)
      ∧ journal.getLast? = some (.drainEncoder 15 true) := by
    revert start e sink ops
    cbv
  -- The journal is evaluated above, and that it is orderly is the general theorem.
  rcases run_orderly .default start rfl e sink ops {} with ⟨journal', t, hbare, hrun, -, horderly⟩
  have hjournal : journal = journal' := congrArg (fun o => o.world.1) hrun
  exact ⟨rfl, hjournal ▸ horderly, hdrains⟩

end Transcoder

end Recode
