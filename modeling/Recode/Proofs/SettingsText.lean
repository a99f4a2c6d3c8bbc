import Recode.Proofs.Json.Members
import Recode.Settings

/-!
# Settings survive JSON

Settings are read back from what is written for them, and from every other object that
has the same fields: in any order, with blanks, with the names spelled in any way, and
with members of other names in between, whose values may be any JSON.

While the members are read, the draft holds the fields that have come so far. It is
therefore a function of their names alone, `draftOf`, whatever their order was, and each
member adds its name. When all thirteen have come the draft is complete.

## Main definitions

* `Settings.fieldNames`: The names of the fields.
* `Settings.fieldsOf`: The members that are fields.
* `Settings.draftOf`: The draft that has the named fields of settings.

## Theorems

* `Settings.fills_of_mem`: A written field joins the draft.
* `Settings.fills_draftOf`: Members fill the draft with the fields among them.
* `Settings.ofDraft_draftOf`: A draft with all fields gives the settings.
* `Settings.ofJson_of_isObject`: Settings are read from every such object.
* `Settings.ofJson_of_members`: The same, together with what is written.
-/

namespace Recode

namespace Settings

open Json

/-- The names of the fields. -/
def fieldNames : List String := shape.fields.map RecordField.name

/-- The draft that has the named fields of settings and no other. -/
def draftOf (s : Settings) (names : List String) : Draft where
  codec := if "codec" ∈ names then some s.codec else none
  width := if "width" ∈ names then some s.width else none
  height := if "height" ∈ names then some s.height else none
  frameRate := if "frame_rate" ∈ names then some s.frameRate else none
  gopSize := if "gop_size" ∈ names then some s.gopSize else none
  maxBFrames := if "max_b_frames" ∈ names then some s.maxBFrames else none
  bitRate := if "bit_rate" ∈ names then some s.bitRate else none
  timeBase := if "time_base" ∈ names then some s.timeBase else none
  pixelFormat := if "pixel_format" ∈ names then some s.pixelFormat else none
  sampleFormat := if "sample_format" ∈ names then some s.sampleFormat else none
  sampleRate := if "sample_rate" ∈ names then some s.sampleRate else none
  channels := if "channels" ∈ names then some s.channels else none
  profile := if "profile" ∈ names then some s.profile else none

theorem readProfile_takes (profile : Option String) :
    (readOptional (readText "a string")).Takes ((profile.map writeString).getD writeNull)
      profile := by
  cases profile with
  | none => exact readOptional_takes_null _
  | some name => exact readOptional_takes_text (writeString_isName name) _

/-- The two numbers of a time base are read from a list of them. -/
theorem readTimeBase_takes (base : Int32 × Int32) :
    readTimeBase.Takes (writeList [writeInteger base.1.toInt, writeInteger base.2.toInt])
      base := by
  obtain ⟨numerator, denominator⟩ := base
  have hinside := (writeInteger_isNumber numerator.toInt).scans.append_cons
    (writeInteger_isNumber denominator.toInt).scans (by decide) scan_comma
  refine ⟨_, hinside.enclosed (by decide) scan_openBracket scan_closeBracket, fun rest => ?_⟩
  -- The first number stands alone, the second behind a comma.
  have hread : Yields
      (readElements (fun n => some (.invalidLength n timeBaseExpected)) timeBaseFields 0
        (none, none))
      (.number (.ofInt numerator.toInt) :: .comma :: .number (.ofInt denominator.toInt)
        :: .closeBracket :: rest) (some numerator, some denominator) rest := by
    refine readElements_cons ⟨Nat.le_refl _, rfl⟩ (by
      simp only [List.head?_cons, ne_eq, Option.some.injEq, reduceCtorEq, not_false_eq_true])
      ((readInt32_yields numerator _).map fun v => (some v, none)) ?_
    refine readElements_cons ⟨Nat.le_succ _, rfl⟩ (by
      simp only [List.head?_cons, ne_eq, Option.some.injEq, reduceCtorEq, not_false_eq_true])
      ((readInt32_yields denominator _).map fun v => (some numerator, some v)) ?_
    exact readElements_nil _ 2 _ rest
  obtain ⟨hshorter, heq⟩ := hread
  refine ⟨Nat.lt_succ_of_lt hshorter, ?_⟩
  simp only [List.cons_append, List.nil_append, readTimeBase, heq, bind, Except.bind]
  rfl

/-- A field of the shape that is new to the draft, whatever its type. -/
theorem fills_field {β : Type} {s : Settings} {names : List String} {name : String}
    {get : Draft → Option β} {put : Draft → β → Draft} {r : Reader β} {value : List Char} {b : β}
    {more : List (String × List Char)} {last : Draft}
    (hfield : shape.fields.find? (fun f => f.name == name) = some (.ofReader name get put r))
    (hget : get (s.draftOf names) = if name ∈ names then some b else none)
    (hput : put (s.draftOf names) b = s.draftOf (name :: names))
    (hvalue : r.Takes value b) (hnew : name ∉ names)
    (hmore : Fills shape.fields more (s.draftOf (name :: names)) last) :
    Fills shape.fields ((name, value) :: more) (s.draftOf names) last := by
  -- The draft has no value for this name yet.
  rw [if_neg hnew] at hget
  rw [← hput] at hmore
  exact Fills.put hfield hget hvalue hmore

/-- A field of the settings whose name is new to the draft joins it. -/
theorem fills_of_mem {s : Settings} {names : List String} {member : String × List Char}
    {more : List (String × List Char)} {last : Draft} (hmember : member ∈ s.members)
    (hnew : member.1 ∉ names)
    (hmore : Fills shape.fields more (s.draftOf (member.1 :: names)) last) :
    Fills shape.fields (member :: more) (s.draftOf names) last := by
  simp only [members, List.mem_cons, List.not_mem_nil, or_false] at hmember
  -- The fields differ in their readers; that the draft gains just this one is the same for all.
  rcases hmember with
      rfl | rfl | rfl | rfl | rfl | rfl | rfl | rfl | rfl | rfl | rfl | rfl | rfl <;>
    refine fills_field rfl rfl (by
      simp only [draftOf, List.mem_cons, String.reduceEq, false_or, true_or, if_true]) ?_
      hnew hmore
  · exact readCodec_takes s.codec
  · exact readUInt32_takes s.width
  · exact readUInt32_takes s.height
  · exact readUInt32_takes s.frameRate
  · exact readUInt32_takes s.gopSize
  · exact readUInt32_takes s.maxBFrames
  · exact readUInt64_takes s.bitRate
  · exact readTimeBase_takes s.timeBase
  · exact readPixelFormat_takes s.pixelFormat
  · exact readSampleFormat_takes s.sampleFormat
  · exact readUInt32_takes s.sampleRate
  · exact readUInt32_takes s.channels
  · exact readProfile_takes s.profile

theorem mem_fieldNames {s : Settings} {member : String × List Char} (h : member ∈ s.members) :
    member.1 ∈ fieldNames := by
  have hnames : s.members.map Prod.fst = fieldNames := rfl
  -- The thirteen members stand in the order of the fields.
  rw [← hnames]
  exact List.mem_map_of_mem h

/-- The members that are fields. -/
def fieldsOf (members : List (String × List Char)) : List (String × List Char) :=
  members.filter fun m => m.1 ∈ fieldNames

/-- Members fill the draft with the fields among them, if those are fields of the settings,
    each at most once, and the others are values of JSON. -/
theorem fills_draftOf (s : Settings) (members : List (String × List Char)) (names : List String)
    (hfields : ∀ m ∈ fieldsOf members, m ∈ s.members)
    (hnodup : ((fieldsOf members).map Prod.fst).Nodup)
    (hnew : ∀ m ∈ fieldsOf members, m.1 ∉ names)
    (hothers : ∀ m ∈ members, m.1 ∉ fieldNames → IsValue m.2) :
    ∃ all, (∀ name, name ∈ all ↔ name ∈ names ∨ name ∈ (fieldsOf members).map Prod.fst)
      ∧ Fills shape.fields members (s.draftOf names) (s.draftOf all) := by
  -- The induction is on the members that are still to come.
  induction members generalizing names with
  | nil => exact ⟨names, fun name => by simp only [fieldsOf, List.filter_nil, List.map_nil,
      List.not_mem_nil, or_false], .nil⟩
  | cons m members ih =>
      have hrest : ∀ m' ∈ members, m'.1 ∉ fieldNames → IsValue m'.2 :=
        fun m' hm' => hothers m' (List.mem_cons_of_mem m hm')
      by_cases hknown : m.1 ∈ fieldNames
      · -- A field: its name joins those that have come, and is not among the ones to come.
        have hcons : fieldsOf (m :: members) = m :: fieldsOf members := by
          simp only [fieldsOf, List.filter_cons, hknown, decide_true, if_true]
        rw [hcons] at hfields hnodup hnew
        rw [List.map_cons, List.nodup_cons] at hnodup
        obtain ⟨hfirst, hnodup⟩ := hnodup
        have hnew' : ∀ m' ∈ fieldsOf members, m'.1 ∉ m.1 :: names := by
          intro m' hm' hmem
          rcases List.mem_cons.mp hmem with hsame | hold
          · exact hfirst (hsame ▸ List.mem_map_of_mem hm')
          · exact hnew m' (List.mem_cons_of_mem m hm') hold
        obtain ⟨all, hall, hfills⟩ := ih (m.1 :: names)
          (fun m' hm' => hfields m' (List.mem_cons_of_mem m hm')) hnodup hnew' hrest
        refine ⟨all, fun name => ?_, fills_of_mem (hfields m (List.mem_cons_self ..))
          (hnew m (List.mem_cons_self ..)) hfills⟩
        rw [hall, hcons, List.map_cons, List.mem_cons, List.mem_cons, or_assoc, or_left_comm]
      · -- No field: the draft stays as it is.
        have hcons : fieldsOf (m :: members) = fieldsOf members := by
          simp only [fieldsOf, List.filter_cons, hknown, decide_false, Bool.false_eq_true, if_false]
        rw [hcons] at hfields hnodup hnew ⊢
        obtain ⟨all, hall, hfills⟩ := ih names hfields hnodup hnew hrest
        exact ⟨all, hall, Fills.skip hknown (hothers m (List.mem_cons_self ..) hknown) hfills⟩

/-- A draft with all fields is complete. -/
theorem ofDraft_draftOf (s : Settings) {names : List String}
    (h : ∀ name ∈ fieldNames, name ∈ names) : ofDraft (s.draftOf names) = .ok s := by
  have hall := h
  simp only [fieldNames, shape, RecordField.ofReader, List.map_cons, List.map_nil, List.mem_cons,
    List.not_mem_nil, or_false, forall_eq_or_imp, forall_eq] at hall
  simp only [ofDraft, draftOf, hall, if_true, required, bind, Except.bind]
  rfl

/-- Settings are read from every object that has their fields, in any order. -/
theorem ofJson_of_isObject (s : Settings) {members : List (String × List Char)} {text : List Char}
    (hobject : IsObject members text) (hfields : (fieldsOf members).Perm s.members)
    (hothers : ∀ m ∈ members, m.1 ∉ fieldNames → IsValue m.2) :
    ofJson (String.ofList text) = .ok s := by
  have hnames : s.members.map Prod.fst = fieldNames := rfl
  have hperm : ((fieldsOf members).map Prod.fst).Perm fieldNames := hnames ▸ hfields.map Prod.fst
  have hnodup : fieldNames.Nodup := by decide
  obtain ⟨all, hall, hfills⟩ := s.fills_draftOf members [] (fun m hm => hfields.mem_iff.mp hm)
    (hperm.nodup_iff.mpr hnodup) (fun _ _ => List.not_mem_nil) hothers
  -- In the end the draft has all names, whatever their order was.
  refine RecordShape.parse_of_isObject hobject hfills (s.ofDraft_draftOf fun name hname => ?_)
  exact (hall name).mpr (Or.inr (hperm.mem_iff.mpr hname))

/-- The fields of settings are all of the members that are written. -/
theorem fieldsOf_members (s : Settings) : fieldsOf s.members = s.members :=
  List.filter_eq_self.mpr fun _ hm => decide_eq_true (mem_fieldNames hm)

/-- Settings are read back from what is written for them. They are read from every object
    as well that has the written fields in any order, between members of other names whose
    values may be any JSON. -/
theorem ofJson_of_members (s : Settings) :
    ofJson s.toJson = .ok s
      ∧ ∀ (members : List (String × List Char)) (text : List Char),
        IsObject members text → (fieldsOf members).Perm s.members →
          (∀ m ∈ members, m.1 ∉ fieldNames → IsValue m.2) →
            ofJson (String.ofList text) = .ok s := by
  refine ⟨?_, fun members text hobject hfields hothers =>
    s.ofJson_of_isObject hobject hfields hothers⟩
  -- What is written is one of these objects.
  have hfields : (fieldsOf s.members).Perm s.members := by rw [fieldsOf_members]
  exact s.ofJson_of_isObject (writeObject_isObject s.members) hfields
    fun _ hm hother => absurd (mem_fieldNames hm) hother

/-- The fields from the last to the first, the profile with a quote, a backslash and a line
    end in it, and a member of another name whose value is a list with an object in it. -/
theorem ofJson_of_members_reversed :
    let s : Settings := { ofCodec .opus with profile := some "\"\\\n" }
    let other : String × List Char :=
      ("größe", ['[', ' ', '{', '"', 'a', '"', ':', '-', '1', 'e', '9', '}', ' ', ']'])
    ofJson (String.ofList (writeObject (other :: s.members.reverse))) = .ok s := by
  intro s other
  -- The value of the other member is built up from the grammar, from the inside.
  have hkey : IsString [.char 'a'] ['"', 'a', '"'] :=
    ⟨['a'], .plain (by decide) (by decide) (by decide) .nil, rfl⟩
  have hsign : (([] : List Char), false) ∈ [([], false), (['+'], false), (['-'], true)] :=
    List.mem_cons_self ..
  have hdigit : ∀ d : Char, d.isDigit = true → IsDigits [d] := fun d hd =>
    ⟨List.cons_ne_nil d [], fun c hc => by rwa [List.mem_singleton.mp hc]⟩
  have hexponent : IsExponent (some (false, ['9'])) ['e', '9'] :=
    .some (Or.inl rfl) hsign (hdigit '9' rfl)
  have hwhole : IsWhole ['1'] := Or.inr ⟨hdigit '1' rfl, by decide⟩
  have hspelled := IsNumber.intro (n := ⟨true, ['1'], none, some (false, ['9'])⟩) hwhole .none
    hexponent
  have hnumber : IsValue ['-', '1', 'e', '9'] := .number hspelled
  have hmember : IsMember IsString ([Fragment.char 'a'], ['-', '1', 'e', '9'])
      ['"', 'a', '"', ':', '-', '1', 'e', '9'] :=
    ⟨_, _, _, hkey, Padded.refl _, Padded.refl _, rfl⟩
  have hobject : IsValue ['{', '"', 'a', '"', ':', '-', '1', 'e', '9', '}'] := by
    refine .object (fun m hm => ?_) (.items (.one hmember))
    rw [List.mem_singleton.mp hm]
    exact hnumber
  have hblank : Blanks [' '] := fun c hc => by
    rw [List.mem_singleton.mp hc]
    exact List.mem_cons_self ..
  have hpadded : Padded ['{', '"', 'a', '"', ':', '-', '1', 'e', '9', '}']
      [' ', '{', '"', 'a', '"', ':', '-', '1', 'e', '9', '}', ' '] :=
    ⟨[' '], [' '], hblank, hblank, rfl⟩
  have hother : IsValue other.2 := by
    refine .list (fun v hv => ?_) (.items (.one hpadded))
    rw [List.mem_singleton.mp hv]
    exact hobject
  have hfields : fieldsOf (other :: s.members.reverse) = s.members.reverse := rfl
  refine (ofJson_of_members s).2 _ _ (writeObject_isObject _)
    (hfields ▸ List.reverse_perm s.members) fun m hm hunknown => ?_
  rcases List.mem_cons.mp hm with rfl | hm
  · exact hother
  · exact absurd (mem_fieldNames (List.mem_reverse.mp hm)) hunknown

end Settings

end Recode
