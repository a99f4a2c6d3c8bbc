import Mathlib.Data.List.Nodup
import Recode.Loopback
import Recode.Proofs.Json.Members
import Recode.Transcoder.Basic

/-!
# Configurations are read over the defaults

Every field of a configuration may be left out, and what is left out has its default. A text
therefore says which fields differ from the default configuration and nothing else: a row of
fields, each with a value, and `overridden` puts these values one after the other into the
default configuration. The reader goes another way. It gathers the fields in a draft and asks
for the defaults when all of the text has been read. That the two agree is a matter of one
field: entering it in a draft and then taking the defaults is the same as taking the defaults
first and overriding the field.

Fields with different names do not get in each other's way. So the order in which the fields
stand does not matter, nor do the members of other names between them.

What has been read must still be usable, and so every configuration that is read makes a
transcoder.

## Main definitions

* `Config.Field`: A field and its value.
* `Config.Field.IsText`: The texts for the value of a field.
* `Config.override`, `Config.overridden`: A configuration with fields replaced.
* `Config.Spells`: Members that have these fields, among members of other names.
* `Config.Draft.enter`: A draft with a field entered.

## Theorems

* `Config.ofDraft_enter`: Entering a field and overriding it are the same.
* `Config.Spells.fills`: Members enter their fields in the draft.
* `Config.overridden_perm`: The order of the fields does not matter.
* `Config.ofJson_of_spells`: An object is read as the defaults with its fields replaced.
* `Config.ofJson_overrides`: The same in any order, what is written, and what is accepted.
-/

namespace Recode

namespace Config

open Json

/-- A field of a configuration and its value. -/
inductive Field where
  | audioTarget (codec : Codec)
  | videoTarget (codec : Codec)
  | poolSize (size : UInt64)

namespace Field

/-- The name of a field. -/
def name : Field → String
  | audioTarget _ => "audio_target"
  | videoTarget _ => "video_target"
  | poolSize _ => "pool_size"

/-- The text stands for the value of the field: the name of a codec, spelled in any way, or the
    digits of a number. -/
def IsText : Field → List Char → Prop
  | audioTarget codec, text => IsName codec.name text
  | videoTarget codec, text => IsName codec.name text
  | poolSize size, text => IsWhole text ∧ Nat.ofDigitChars 10 text 0 = size.toNat

end Field

/-- The configuration with the value of one field replaced. -/
def override (c : Config) : Field → Config
  | .audioTarget codec => { c with audioTarget := codec }
  | .videoTarget codec => { c with videoTarget := codec }
  | .poolSize size => { c with poolSize := size }

/-- The default configuration with the values of these fields replaced. -/
def overridden (fields : List Field) : Config := fields.foldl override default

/-- The members have these fields, in this order, and members of other names with any JSON for
    their values in between. -/
inductive Spells : List Field → List (String × List Char) → Prop
  | nil : Spells [] []
  | field {f : Field} {fields : List Field} {text : List Char}
      {members : List (String × List Char)} (htext : f.IsText text)
      (hmore : Spells fields members) : Spells (f :: fields) ((f.name, text) :: members)
  | other {fields : List Field} {name : String} {text : List Char}
      {members : List (String × List Char)} (hname : ∀ f : Field, f.name ≠ name)
      (hvalue : IsValue text) (hmore : Spells fields members) :
      Spells fields ((name, text) :: members)

/-! ## Fields in a draft -/

/-- The draft with the value of one field entered. -/
def Draft.enter (d : Draft) : Field → Draft
  | .audioTarget codec => { d with audioTarget := some codec }
  | .videoTarget codec => { d with videoTarget := some codec }
  | .poolSize size => { d with poolSize := some size }

/-- The draft does not have the field yet. -/
def Draft.Lacks (d : Draft) : Field → Prop
  | .audioTarget _ => d.audioTarget = none
  | .videoTarget _ => d.videoTarget = none
  | .poolSize _ => d.poolSize = none

theorem Draft.Lacks.enter {d : Draft} {f g : Field} (h : d.Lacks g) (hname : f.name ≠ g.name) :
    (d.enter f).Lacks g := by
  cases f <;> cases g <;> first | exact absurd rfl hname | exact h

/-- Taking the defaults goes along with entering a field. -/
theorem ofDraft_enter (d : Draft) (f : Field) : ofDraft (d.enter f) = (ofDraft d).override f := by
  cases f <;> rfl

/-- A draft with these fields entered stands for the default configuration with them replaced. -/
theorem ofDraft_foldl_enter (fields : List Field) :
    ofDraft (fields.foldl Draft.enter {}) = overridden fields :=
  (List.foldl_hom ofDraft fun d f => (ofDraft_enter d f).symm).symm

/-- A member that spells a field enters it in a draft that does not have it. -/
theorem fills_enter {f : Field} {text : List Char} {more : List (String × List Char)}
    {d last : Draft} (htext : f.IsText text) (hlacks : d.Lacks f)
    (hmore : Fills shape.fields more (d.enter f) last) :
    Fills shape.fields ((f.name, text) :: more) d last := by
  -- The fields differ in their readers only.
  cases f with
  | audioTarget codec => exact Fills.put rfl hlacks (readCodec_takes_name htext) hmore
  | videoTarget codec => exact Fills.put rfl hlacks (readCodec_takes_name htext) hmore
  | poolSize size => exact Fills.put rfl hlacks (readUInt64_takes_digits htext.1 htext.2) hmore

/-- A name that is no field's is not among those that the reader looks for. -/
theorem not_mem_shape {name : String} (h : ∀ f : Field, f.name ≠ name) :
    name ∉ shape.fields.map RecordField.name := by
  intro hmem
  have hnames : shape.fields.map RecordField.name
      = [(Field.audioTarget .g711a).name, (Field.videoTarget .h264).name,
        (Field.poolSize 0).name] := rfl
  rw [hnames] at hmem
  simp only [List.mem_cons, List.not_mem_nil, or_false] at hmem
  -- One value of each field will do, since the names do not depend on the values.
  rcases hmem with hname | hname | hname
  · exact h _ hname.symm
  · exact h _ hname.symm
  · exact h _ hname.symm

/-- Members enter their fields in a draft one after the other, if they have each field once and
    the draft has none of them. -/
theorem Spells.fills {fields : List Field} {members : List (String × List Char)}
    (h : Spells fields members) {d : Draft} (hnodup : (fields.map Field.name).Nodup)
    (hlacks : ∀ f ∈ fields, d.Lacks f) :
    Fills shape.fields members d (fields.foldl Draft.enter d) := by
  induction h generalizing d with
  | nil => exact .nil
  | @field f fields text members htext _ ih =>
      rw [List.map_cons, List.nodup_cons] at hnodup
      refine fills_enter htext (hlacks f (List.mem_cons_self ..)) (ih hnodup.2 ?_)
      -- The field that was just entered is none of those to come.
      intro g hg
      have hname : f.name ≠ g.name := fun hsame => hnodup.1 (hsame ▸ List.mem_map_of_mem hg)
      exact (hlacks g (List.mem_cons_of_mem f hg)).enter hname
  | other hname hvalue _ ih => exact Fills.skip (not_mem_shape hname) hvalue (ih hnodup hlacks)

/-! ## The order of the fields -/

theorem override_comm {f g : Field} (hname : f.name ≠ g.name) (c : Config) :
    (c.override f).override g = (c.override g).override f := by
  cases f <;> cases g <;> first | exact absurd rfl hname | rfl

/-- The order of the fields does not matter where each name occurs once. -/
theorem overridden_perm {fields order : List Field} (h : order.Perm fields)
    (hnodup : (fields.map Field.name).Nodup) : overridden order = overridden fields := by
  refine h.foldl_eq' ?_ default
  intro f hf g hg c
  by_cases hname : f.name = g.name
  · -- Two fields of one name would be the same field.
    have hsame : f = g :=
      List.inj_on_of_nodup_map hnodup (h.mem_iff.mp hf) (h.mem_iff.mp hg) hname
    rw [hsame]
  · exact override_comm hname c

/-! ## Usable configurations -/

/-- Whatever is wrong with a configuration, the fault says that it is the configuration. -/
theorem invalidConfig_of_validate {c : Config} {fault : Fault} (h : c.validate = .error fault) :
    ∃ reason, fault = .invalidConfig reason := by
  unfold validate at h
  split at h
  · exact ⟨_, (Except.error.inj h).symm⟩
  · split at h
    · exact ⟨_, (Except.error.inj h).symm⟩
    · split at h
      · exact ⟨_, (Except.error.inj h).symm⟩
      · exact absurd h (by simp only [reduceCtorEq, not_false_eq_true])

/-- Only usable configurations are read. -/
theorem validate_of_ofJson {text : String} {c : Config} (h : ofJson text = .ok c) :
    c.validate = .ok () := by
  unfold ofJson at h
  split at h
  · exact absurd h (by simp only [reduceCtorEq, not_false_eq_true])
  · next config _ =>
    cases hvalid : config.validate with
    | error fault =>
        rw [hvalid] at h
        exact absurd h (by simp only [Except.map, reduceCtorEq, not_false_eq_true])
    | ok _ =>
        rw [hvalid] at h
        rw [← Except.ok.inj h]
        exact hvalid

/-- A usable configuration makes a transcoder without tracks. -/
theorem ofConfig_of_validate {c : Config} (h : c.validate = .ok ()) (b : Backend) :
    ∃ t : Transcoder b, Transcoder.ofConfig c = .ok t ∧ t.config = c := by
  refine ⟨{ config := c, usable := h, lanes := ⟨none, none⟩ }, ?_, rfl⟩
  -- Validation is the only thing that can fail here.
  unfold Transcoder.ofConfig
  split
  · rfl
  · next fault hfault =>
    rw [h] at hfault
    exact absurd hfault (by simp only [reduceCtorEq, not_false_eq_true])

/-! ## Reading -/

/-- An object with these fields is read as the default configuration with them replaced, or
    refused for what is wrong with that. -/
theorem ofJson_of_spells {fields : List Field} {members : List (String × List Char)}
    {text : List Char} (hspells : Spells fields members) (hobject : IsObject members text)
    (hnodup : (fields.map Field.name).Nodup) :
    ofJson (String.ofList text) = (overridden fields).validate.map fun _ => overridden fields := by
  -- The empty draft lacks every field.
  have hfills := hspells.fills (d := {}) hnodup fun f _ => by cases f <;> rfl
  have hfinish : shape.finish (fields.foldl Draft.enter {}) = .ok (overridden fields) :=
    congrArg Except.ok (ofDraft_foldl_enter fields)
  rw [ofJson, RecordShape.parse_of_isObject hobject hfills hfinish]

/-- The fields of a configuration, in the order in which they are written. -/
def fields (c : Config) : List Field :=
  [.audioTarget c.audioTarget, .videoTarget c.videoTarget, .poolSize c.poolSize]

/-- With all of its fields replaced, nothing but a configuration itself is left. -/
theorem overridden_fields (c : Config) : overridden c.fields = c := rfl

/-- A configuration has each of its fields once. -/
theorem nodup_fields (c : Config) : (c.fields.map Field.name).Nodup := by
  have hnames : c.fields.map Field.name = ["audio_target", "video_target", "pool_size"] := rfl
  rw [hnames]
  decide

theorem isText_writeInteger (size : UInt64) :
    (Field.poolSize size).IsText (writeInteger size.toNat) := by
  rw [writeInteger_ofNat]
  exact ⟨toDigits_isWhole _, Nat.ofDigitChars_ten_toDigits⟩

/-- What is written for a configuration is an object with all of its fields. -/
theorem exists_spells_toJson (c : Config) :
    ∃ members text, Spells c.fields members ∧ IsObject members text
      ∧ c.toJson = String.ofList text :=
  ⟨_, _, .field (writeString_isName c.audioTarget.name)
    (.field (writeString_isName c.videoTarget.name)
      (.field (isText_writeInteger c.poolSize) .nil)),
    writeObject_isObject _, rfl⟩

/-- An object that has any of the fields, each once, in any order and among members of other
    names, is read as the default configuration with just these fields replaced, if this is
    usable, and otherwise refused for the reason why it is not. So a usable configuration is
    read back from what is written for it, and whatever is read makes a transcoder. -/
theorem ofJson_overrides :
    (∀ (fields order : List Field) (members : List (String × List Char)) (text : List Char),
        (fields.map Field.name).Nodup → order.Perm fields → Spells order members →
          IsObject members text →
            ((overridden fields).validate = .ok () →
                ofJson (String.ofList text) = .ok (overridden fields))
              ∧ ∀ fault, (overridden fields).validate = .error fault →
                ofJson (String.ofList text) = .error fault
                  ∧ ∃ reason, fault = .invalidConfig reason)
      ∧ (∀ c : Config, c.validate = .ok () → ofJson c.toJson = .ok c)
      ∧ ∀ (text : String) (c : Config), ofJson text = .ok c →
          ∀ b : Backend, ∃ t : Transcoder b, Transcoder.ofConfig c = .ok t ∧ t.config = c := by
  refine ⟨?_, ?_, fun text c h b => ofConfig_of_validate (validate_of_ofJson h) b⟩
  · -- The text overrides in an order of its own, which comes to the same configuration.
    intro fields order members text hnodup hperm hspells hobject
    have hread := ofJson_of_spells hspells hobject
      ((hperm.map Field.name).nodup_iff.mpr hnodup)
    rw [overridden_perm hperm hnodup] at hread
    constructor
    · intro hvalid
      rw [hread, hvalid]
      rfl
    · intro fault hinvalid
      refine ⟨?_, invalidConfig_of_validate hinvalid⟩
      rw [hread, hinvalid]
      rfl
  · -- All fields are written, so nothing is left of the defaults.
    intro c hvalid
    obtain ⟨members, text, hspells, hobject, htext⟩ := c.exists_spells_toJson
    rw [htext, ofJson_of_spells hspells hobject c.nodup_fields, overridden_fields, hvalid]
    rfl

/-- The largest pool, then a member of another name, then a codec with one letter spelled by
    its number. A codec for pictures is no target for sound, and what is refused is the
    configuration and not the text. -/
theorem ofJson_overrides_reordered :
    let size : String × List Char := ("pool_size", writeInteger 18446744073709551615)
    let other : String × List Char := ("größe", ['[', 'n', 'u', 'l', 'l', ']'])
    let video : String × List Char :=
      ("video_target", ['"', 'h', '\\', 'u', '0', '0', '3', '2', '6', '5', '"'])
    let audio : String × List Char := ("audio_target", writeString "h264")
    let read : Config := ⟨.g711a, .h265, 18446744073709551615⟩
    ofJson (String.ofList (writeObject [size, other, video])) = .ok read
      ∧ ofJson read.toJson = .ok read
      ∧ (∃ t : Transcoder Loopback.backend, Transcoder.ofConfig read = .ok t ∧ t.config = read)
      ∧ ofJson (String.ofList (writeObject [audio, other, size]))
        = .error (.invalidConfig "audio target h264 is not an audio codec") := by
  intro size other video audio read
  have hsize : (Field.poolSize 18446744073709551615).IsText size.2 := isText_writeInteger _
  have hvideo : (Field.videoTarget .h265).IsText video.2 := by
    -- The second letter is the unit with the number 32 in hexadecimal digits.
    have hzero : ('0', 0) ∈ hexDigits := by decide
    have hcontents : IsContents [.char 'h', .unit 0x32, .char '6', .char '5']
        ['h', '\\', 'u', '0', '0', '3', '2', '6', '5'] :=
      .plain (by decide) (by decide) (by decide)
        (.unit hzero hzero (c := ('3', 3)) (by decide) (d := ('2', 2)) (by decide)
          (.plain (by decide) (by decide) (by decide)
            (.plain (by decide) (by decide) (by decide) .nil)))
    exact ⟨_, ⟨_, hcontents, rfl⟩, .char (.unit (Or.inl (by decide)) (.char (.char .nil)))⟩
  have haudio : (Field.audioTarget .h264).IsText audio.2 := writeString_isName "h264"
  have hother : IsValue other.2 := by
    refine .list (fun v hv => ?_) (.items (.one (Padded.refl Word.null.letters)))
    rw [List.mem_singleton.mp hv]
    exact .word .null
  have hname : ∀ f : Field, f.name ≠ other.1 := by
    intro f
    cases f <;> simp only [Field.name, other, ne_eq, String.reduceEq, not_false_eq_true]
  obtain ⟨hoverrides, hwritten, haccepted⟩ := ofJson_overrides
  have hread := (hoverrides [.videoTarget .h265, .poolSize 18446744073709551615]
    [.poolSize 18446744073709551615, .videoTarget .h265] [size, other, video] _ (by decide)
    (List.Perm.swap ..) (.field hsize (.other hname hother (.field hvideo .nil)))
    (writeObject_isObject _)).1 rfl
  have hrefused := (hoverrides [.audioTarget .h264, .poolSize 18446744073709551615] _
    [audio, other, size] _ (by decide) (List.Perm.refl _)
    (.field haudio (.other hname hother (.field hsize .nil))) (writeObject_isObject _)).2 _ rfl
  exact ⟨hread, hwritten read rfl, haccepted _ read hread Loopback.backend, hrefused.1⟩

end Config

end Recode
