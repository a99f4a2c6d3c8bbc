import Mathlib
import Recode.Loopback
import Recode.Proofs.Machine
import Recode.Proofs.Opening

/-!
# The loopback engine as a set of state machines

The loopback engine counts the calls it gets, but never looks at the count. Its contexts
are values that hold their own delay lines, and every picture it offers is blank. So it
is an engine that is a set of state machines, and everything proved about such engines
is true of it.

## Main definitions

* `Loopback.machine`: The machines.

## Theorems

* `Loopback.blank_of_offers`: The engine offers blank pictures only.
* `Loopback.engine_realizes`: The engine answers as the machines do.
* `Loopback.codec_of_find?`: What is found for a codec decodes it.
* `Loopback.contexts_of_build`: What the contexts of a new chain are.
-/

namespace Recode.Loopback

/-- The contexts of the engine, run without a tally. -/
def machine (setup : Setup) : Machine backend :=
  { decode := fun d packet => (d.feed packet (.blank [])).answer
    drainDecoder := fun d => (d.drain (.blank [])).answer
    openConverter := fun source target =>
      if source.format ∈ setup.rejectedConversions then
        .error (conversionRefusal source.format target)
      else .ok target
    convert := fun target picture => (.ok (relabel target picture (.blank [])), target)
    encode := fun e picture => ((e.feed picture).outcome, (e.feed picture).context)
    drainEncoder := Encoder.drain }

/-- Every picture that this engine offers is empty, whether it is new or reset. -/
theorem blank_of_offers {setup : Setup} {blank : Picture Bytes}
    (h : (engine setup).Offers blank) : blank = .blank [] := by
  rcases h with ⟨w, rfl⟩ | ⟨used, rfl⟩ <;> rfl

/-- The engine does what its machine says, in every world. -/
theorem engine_realizes (setup : Setup) : (engine setup).Realizes (machine setup) := by
  -- One goal for each part of the machine. The tallies of the engine have no part in its
  -- answers.
  refine ⟨?_, ?_, ?_, ?_, ?_, ?_⟩
  · intro context packet blank w hblank
    rw [blank_of_offers hblank]
    rfl
  · intro context blank w hblank
    rw [blank_of_offers hblank]
    rfl
  · intro geometry target w
    simp only [engine, machine]
    by_cases hrejected : geometry.format ∈ setup.rejectedConversions
    · simp only [if_pos hrejected]
      rfl
    · simp only [if_neg hrejected]
      rfl
  · intro context picture blank w hblank
    rw [blank_of_offers hblank]
    rfl
  · intro context picture w
    rfl
  · intro context w
    rfl

/-- No two codecs list the same decoder. -/
theorem find?_lists (codec : Codec) : ∀ name ∈ codec.entry.decoders,
    (Codec.all.find? fun other => other.entry.decoders.contains name) = some codec := by
  cases codec <;> decide

/-- Whatever is found for a codec decodes that codec. -/
theorem codec_of_find? {names : List String} {missing : List Codec} {codec : Codec}
    {lookup : Lookup} {found : Implementation}
    (hlookup : lookup ∈ lookups codec codec.entry.decoders)
    (h : find? names missing (·.entry.decoders) lookup = some found) : found.codec = codec := by
  -- A lookup is by the name of a decoder of the codec, or by the codec itself.
  rcases List.mem_append.mp hlookup with hname | hcodec
  · rcases List.mem_map.mp hname with ⟨name, hmem, rfl⟩
    simp only [find?, find?_lists codec name hmem, Option.bind_eq_bind, Option.bind_some,
      Option.bind_eq_some_iff] at h
    rcases h with ⟨-, -, -, -, hfound⟩
    cases hfound
    rfl
  · cases List.mem_singleton.mp hcodec
    simp only [find?, Option.bind_eq_bind, Option.bind_eq_some_iff] at h
    rcases h with ⟨-, -, hfound⟩
    cases hfound
    rfl

/-- A decoder that opens is for the codec of its implementation, and keeps nothing back yet. -/
theorem eq_of_openDecoder {setup : Setup} {found : Implementation} {track : Track} {w : Tally}
    {d : Decoder} (h : ((engine setup).openDecoder found track w).value = .ok d) :
    d = { kind := found.codec.trackType, track, output := setup.decoderOutput
          line := .ofDelay setup.decoderDelay } := by
  by_cases hfails : found.codec ∈ setup.failingDecoders
  · simp only [engine, if_pos hfails] at h
    cases h
  · simp only [engine, if_neg hfails] at h
    cases h
    rfl

/-- An encoder that opens is for the kind of its settings, and keeps nothing back yet. -/
theorem eq_of_openEncoder {setup : Setup} {found : Implementation} {settings : Settings} {w : Tally}
    {e : Encoder} (h : ((engine setup).openEncoder found settings w).value = .ok e) :
    e = { kind := settings.trackType, formats := setup.encoderFormats
          line := .ofDelay setup.encoderDelay, begun := false } := by
  by_cases hfails : found.codec ∈ setup.failingEncoders
  · simp only [engine, if_pos hfails] at h
    cases h
  · simp only [engine, if_neg hfails] at h
    cases h
    rfl

/-- The contexts of a chain that opens. Their delay lines are empty. -/
theorem contexts_of_build {ρ : Type} {setup : Setup} {track : Track} {settings : Settings}
    {poolSize : Nat} {w : ρ × Tally} {c : Chain backend}
    (h : (Chain.build (engine setup).onSecond track settings poolSize w).value = .ok c) :
    c.decode.context = { kind := track.trackType, track, output := setup.decoderOutput
                         line := .ofDelay setup.decoderDelay }
      ∧ c.encode.context = { kind := settings.trackType, formats := setup.encoderFormats
                             line := .ofDelay setup.encoderDelay, begun := false } := by
  have hbuild := Chain.build_value (engine setup).onSecond track settings poolSize w
  rw [h] at hbuild
  rcases hbuild with ⟨w', hdecode, hencode⟩
  have hdecoder := DecodeStage.build_value (engine setup).onSecond track poolSize w
  have hencoder := EncodeStage.build_value (engine setup).onSecond settings poolSize w'
  rw [hdecode] at hdecoder
  rw [hencode] at hencoder
  rcases hdecoder with ⟨-, lookup, hlookup, found, w₁, w₂, hfind, hopen⟩
  rcases hencoder with ⟨-, -, -, lookup', -, found', w₁', w₂', -, hopen'⟩
  have hfound : found.codec = track.codec := codec_of_find? hlookup hfind
  have hdecoder := eq_of_openDecoder hopen
  -- The codec of the implementation is that of the track, and so is its kind.
  rw [hfound] at hdecoder
  exact ⟨hdecoder, eq_of_openEncoder hopen'⟩

end Recode.Loopback
