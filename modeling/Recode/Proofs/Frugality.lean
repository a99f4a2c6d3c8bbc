import Recode.Proofs.EndOfStream

/-!
# One picture for each stage

A pool is there so that a stage need not have a picture made for every frame. In a
transcoder one picture is enough for the whole life of a decode stage, and one for the
life of a converter. Whatever a stage obtains has come back before it obtains again, on
every path: when nothing comes out, when something fails, when the sink refuses a frame
in the middle of a drain.

The journal tells how many pictures are made, but not for whom. A stage has a picture
made because it is about to use it. So a picture belongs to the stage whose context is
asked next, and a converter goes by the number of the encoder that it stands in front of.

What is kept at every step is a balance. The pictures that were made for a stage are
those that are idle in its pool, and there is at most one. A frame on its way through a
chain takes both pictures out of their pools and brings them back.

## Main definitions

* `Act.Writes`: What an action adds to a journal.
* `Owner`, `owners`: Whom the pictures are made for.
* `Waiting`: Calls in which pictures are made that nobody has used yet.
* `Pool.Holds`, `EncodeStage.Holds`, `Chain.Holds`: How many pictures are idle.
* `Makes`: What a chain has made in some calls.
* `Transcoder.Frugal`: Every picture was made for a stage, at most one for each, and those
  of the stages at work are idle.

## Theorems

* `Act.Writes.bind`: Actions in a row.
* `owners_append`, `Makes.append`: Calls one after the other.
* `DecodeStage.input_makes`, `ConvertStage.convert_makes`, `EncodeStage.input_makes`: The
  stages.
* `Chain.input_makes`, `Chain.flush_makes`: A chain.
* `Transcoder.perform_frugal`: Every operation keeps a transcoder frugal.
* `Transcoder.run_makes_once`: No stage has two pictures made.
-/

namespace Recode

namespace Act

variable {σ α β γ κ : Type}

/-- Begun with a journal, the action adds entries to it. The entries and the value satisfy
    `post`. -/
def Writes (x : Act (List κ × σ) α) (journal : List κ) (post : List κ → α → Prop) : Prop :=
  ∀ w, ∃ entries, (x (journal, w)).world.1 = journal ++ entries
    ∧ post entries (x (journal, w)).value

/-- What follows another action adds entries. -/
theorem Follows.writes {x : Act (List κ × σ) α} {y : Act σ β} {journal : List κ}
    {p : List κ → α → β → Prop} (h : Follows x journal y p) :
    Writes x journal fun entries a => ∃ a', p entries a a' := by
  intro w
  rcases h w with ⟨entries, a, heq, hp⟩
  refine ⟨entries, ?_, (y w).value, ?_⟩
  · rw [heq]
  · rw [heq]
    exact hp

namespace Writes

variable {x : Act (List κ × σ) α} {journal : List κ} {p q : List κ → α → Prop}
  {f : α → Act (List κ × σ) γ} {last : List κ → γ → Prop}

theorem mono (hx : Writes x journal p) (h : ∀ entries a, p entries a → q entries a) :
    Writes x journal q := by
  intro w
  rcases hx w with ⟨entries, heq, hp⟩
  exact ⟨entries, heq, h entries _ hp⟩

theorem pure {a : α} (h : p [] a) : Writes (Pure.pure a : Act (List κ × σ) α) journal p :=
  fun _ => ⟨[], (List.append_nil journal).symm, h⟩

/-- Actions in a row add what the first adds and then what the second adds. -/
theorem bind (hx : Writes x journal p)
    (hf : ∀ entries a, p entries a →
      Writes (f a) (journal ++ entries) fun more c => last (entries ++ more) c) :
    Writes (x >>= f) journal last := by
  intro w
  rcases hx w with ⟨entries, heq, hp⟩
  -- The second action finds the entries of the first at the end of its journal.
  rcases hf entries _ hp (x (journal, w)).world.2 with ⟨more, heq', hlast⟩
  have hworld : (x (journal, w)).world = (journal ++ entries, (x (journal, w)).world.2) :=
    Prod.ext heq rfl
  refine ⟨entries ++ more, ?_, ?_⟩
  · rw [bind_world, hworld, ← List.append_assoc]
    exact heq'
  · rw [bind_value, hworld]
    exact hlast

theorem bind_note (n : Note) {f : Unit → Act (List κ × σ) γ} (hf : Writes (f ()) journal last) :
    Writes (Act.note n >>= f) journal last := hf

/-- What is added is determined by the journal before and after. -/
theorem and (hp : Writes x journal p) (hq : Writes x journal q) :
    Writes x journal fun entries a => p entries a ∧ q entries a := by
  intro w
  rcases hp w with ⟨entries, heq, hp⟩
  rcases hq w with ⟨entries', heq', hq⟩
  cases List.append_cancel_left (heq.symm.trans heq')
  exact ⟨entries, heq, hp, hq⟩

/-- What holds of the value in every world. -/
theorem and_value {q : α → Prop} (hp : Writes x journal p) (hq : ∀ w, q (x w).value) :
    Writes x journal fun entries a => p entries a ∧ q a := by
  intro w
  rcases hp w with ⟨entries, heq, hp⟩
  exact ⟨entries, heq, hp, hq _⟩

end Writes

end Act

open Act

variable {b : Backend} {σ : Type}

/-! ## Whom pictures are made for -/

/-- A stage that has pictures made. -/
inductive Owner where
  /-- The decode stage with this decoder. -/
  | decoding (decoder : Nat)
  /-- The converter in front of this encoder. -/
  | converting (encoder : Nat)
deriving DecidableEq, Repr

/-- The number of the context that an owner goes by. -/
def Owner.number : Owner → Nat
  | decoding n | converting n => n

/-- The stage that asks its context. -/
def Call.owner? : Call b → Option Owner
  | decode decoder .. | drainDecoder decoder .. => some (.decoding decoder)
  | encode encoder _ => some (.converting encoder)
  | _ => none

/-- A picture is made. -/
def Call.makes : Call b → Bool
  | fresh => true
  | _ => false

/-- Whom the pictures are made for, one after the other. Each belongs to the stage whose
    context is asked next, if there is one. -/
def owners : List (Call b) → List (Option Owner)
  | [] => []
  | call :: later =>
    if call.makes then later.findSome? Call.owner? :: owners later else owners later

section

variable {entries more : List (Call b)} {call : Call b} {owner : Owner} {n : Nat}

/-- If all pictures have found their owners already, nothing that is called later changes them. -/
theorem owners_append (h : none ∉ owners entries) (more : List (Call b)) :
    owners (entries ++ more) = owners entries ++ owners more := by
  induction entries with
  | nil => rfl
  | cons call later ih =>
      rw [List.cons_append]
      simp only [owners] at h ⊢
      by_cases hmakes : call.makes = true
      · simp only [if_pos hmakes, List.mem_cons, not_or] at h ⊢
        -- The owner is among the calls at hand, so later ones make no difference.
        rcases Option.ne_none_iff_exists'.mp (Ne.symm h.1) with ⟨owner, howner⟩
        rw [List.findSome?_append, howner, Option.some_or, ih h.2, List.cons_append]
      · simp only [if_neg hmakes] at h ⊢
        exact ih h

theorem owners_eq_nil (h : ∀ call ∈ entries, call.makes = false) : owners entries = [] := by
  induction entries with
  | nil => rfl
  | cons call later ih =>
      rcases List.forall_mem_cons.mp h with ⟨hcall, hlater⟩
      rw [owners, hcall, if_neg Bool.false_ne_true]
      exact ih hlater

/-- Calls in which pictures are made, and no stage asks its context. -/
structure Waiting (n : Nat) (entries : List (Call b)) : Prop where
  unowned : ∀ call ∈ entries, call.owner? = none
  made : entries.countP Call.makes = n

theorem Waiting.nil : Waiting 0 ([] : List (Call b)) := ⟨List.forall_mem_nil _, rfl⟩

theorem Waiting.append {m : Nat} (h : Waiting n entries) (hmore : Waiting m more) :
    Waiting (n + m) (entries ++ more) := by
  refine ⟨List.forall_mem_append.mpr ⟨h.unowned, hmore.unowned⟩, ?_⟩
  rw [List.countP_append, h.made, hmore.made]

/-- The stage that asks next owns all pictures that were made. -/
theorem Waiting.owners_append (h : Waiting n entries) (hcall : call.owner? = some owner)
    (hmore : ∀ call ∈ more, call.makes = false) :
    owners (entries ++ call :: more) = List.replicate n (some owner) := by
  rcases h with ⟨hunowned, rfl⟩
  induction entries with
  | nil =>
      have hmakes : call.makes = false := by cases call <;> first | rfl | cases hcall
      exact owners_eq_nil (List.forall_mem_cons.mpr ⟨hmakes, hmore⟩)
  | cons call' later ih =>
      rcases List.forall_mem_cons.mp hunowned with ⟨-, hlater⟩
      -- None of the calls in between asks a context, so the next that does is this one.
      have hfirst : (later ++ call :: more).findSome? Call.owner? = some owner := by
        rw [List.findSome?_append, List.findSome?_eq_none_iff.mpr hlater, Option.none_or,
          List.findSome?_cons, hcall]
      rw [List.cons_append, owners, ih hlater, hfirst, List.countP_cons]
      by_cases hmakes : call'.makes = true
      · rw [if_pos hmakes, if_pos hmakes, List.replicate_succ]
      · rw [if_neg hmakes, if_neg hmakes, Nat.add_zero]

end

/-! ## Pictures that are idle -/

/-- So many values are idle, no more than one, and there is room for it. -/
structure Pool.Holds {α : Type} (p : Pool α) (n : Nat) : Prop where
  available : p.available = n
  le_one : n ≤ 1
  room : 0 < p.capacity

theorem Pool.holds_ofCapacity {α : Type} {capacity : Nat} (h : 0 < capacity) :
    (ofCapacity capacity : Pool α).Holds 0 := ⟨rfl, Nat.zero_le 1, h⟩

/-- An empty pool has room for what comes back. -/
theorem Pool.Holds.restore {α : Type} {p : Pool α} (h : p.Holds 0) (a : α) :
    (p.restore a).Holds 1 := by
  have hroom : p.idle.length < p.capacity := by
    rw [show p.idle.length = 0 from h.available]
    exact h.room
  unfold Pool.restore
  rw [if_pos hroom]
  exact ⟨congrArg (· + 1) h.available, Nat.le_refl 1, h.room⟩

/-- A picture is made only if none is idle, and then the pool is empty. -/
theorem Engine.obtain_makes (e : Engine b σ) {pool : Pool (Picture b.Store)} {k : Nat}
    (h : pool.Holds k) (journal : List (Call b)) :
    Writes (pool.obtain e.journaled.fresh e.journaled.recycle) journal
      fun entries a => Waiting (1 - k) entries ∧ a.2.Holds 0 := by
  have havailable : pool.idle.length = k := h.available
  have hone := h.le_one
  unfold Pool.obtain
  rcases hidle : pool.idle with _ | ⟨used, rest⟩
  · rw [hidle] at havailable
    cases havailable
    refine (Follows.recorded e.fresh (fun _ => .fresh) journal).writes.bind ?_
    rintro _ blank ⟨-, rfl, -⟩
    exact .pure ⟨⟨List.forall_mem_singleton.mpr rfl, rfl⟩, h⟩
  · rw [hidle, List.length_cons] at havailable
    -- There is at most one, so the pool is empty without it.
    have hk : k = 1 := by omega
    have hrest : rest.length = 0 := by omega
    cases hk
    exact .pure ⟨.nil, hrest, Nat.zero_le 1, h.room⟩

/-- So many pictures are idle in the pool of the converter, which may be yet to come. -/
def EncodeStage.Holds (s : EncodeStage b) (k : Nat) : Prop :=
  0 < s.poolSize ∧ match s.converter with
    | none => k = 0
    | some converter => converter.pool.Holds k

/-- So many pictures are idle in the pools of the two stages. -/
structure Chain.Holds (c : Chain b) (j k : Nat) : Prop where
  decode : c.decode.pool.Holds j
  encode : c.encode.Holds k

/-- How many pictures are idle in the pool of the converter; without a converter there are
    none. -/
def EncodeStage.idle (s : EncodeStage b) : Nat :=
  match s.converter with
  | none => 0
  | some converter => converter.pool.available

/-- What a stage holds is what is idle in it. -/
theorem EncodeStage.Holds.idle_eq {s : EncodeStage b} {k : Nat} (h : s.Holds k) : s.idle = k := by
  rcases h with ⟨-, h⟩
  unfold EncodeStage.idle
  split at h
  · exact h.symm
  · exact h.available

/-- A stage never holds more than one picture. -/
theorem EncodeStage.Holds.le_one {s : EncodeStage b} {k : Nat} (h : s.Holds k) : k ≤ 1 := by
  rcases h with ⟨-, h⟩
  split at h
  · cases h
    exact Nat.zero_le 1
  · exact h.le_one

/-- All pictures made in these calls are made for the stages of the chain with this decoder
    and this encoder. Before, `j` and `k` of them had been made for the one and the other,
    and then they are `j'` and `k'`. -/
structure Makes (decoder encoder j k : Nat) (entries : List (Call b)) (j' k' : Nat) : Prop where
  owned : ∀ owner? ∈ owners entries,
    owner? = some (.decoding decoder) ∨ owner? = some (.converting encoder)
  decoding : j + (owners entries).count (some (.decoding decoder)) = j'
  converting : k + (owners entries).count (some (.converting encoder)) = k'

section

variable {decoder encoder j k j' k' : Nat} {entries more : List (Call b)}

/-- All of these pictures have found their owners. -/
theorem Makes.none_not_mem (h : Makes decoder encoder j k entries j' k') :
    none ∉ owners entries := by
  intro hmem
  rcases h.owned none hmem with heq | heq <;> cases heq

theorem Makes.nothing (h : ∀ call ∈ entries, call.makes = false) :
    Makes decoder encoder j k entries j k := by
  have howners := owners_eq_nil h
  refine ⟨?_, ?_, ?_⟩ <;> rw [howners]
  · exact List.forall_mem_nil _
  · rfl
  · rfl

/-- Two stretches of calls one after the other add up. -/
theorem Makes.append {j'' k'' : Nat} (h : Makes decoder encoder j k entries j' k')
    (hmore : Makes decoder encoder j' k' more j'' k'') :
    Makes decoder encoder j k (entries ++ more) j'' k'' := by
  have happend := owners_append h.none_not_mem more
  refine ⟨?_, ?_, ?_⟩ <;> rw [happend]
  · exact List.forall_mem_append.mpr ⟨h.owned, hmore.owned⟩
  · rw [List.count_append, ← Nat.add_assoc, h.decoding, hmore.decoding]
  · rw [List.count_append, ← Nat.add_assoc, h.converting, hmore.converting]

/-- Nothing is made for other stages. -/
theorem Makes.count_eq_zero (h : Makes decoder encoder j k entries j' k') {owner : Owner}
    (hdecoding : owner ≠ .decoding decoder) (hconverting : owner ≠ .converting encoder) :
    (owners entries).count (some owner) = 0 := by
  refine List.count_eq_zero.mpr fun hmem => ?_
  rcases h.owned _ hmem with heq | heq <;> cases heq
  · exact hdecoding rfl
  · exact hconverting rfl

/-- Pictures for the decoder. -/
theorem Makes.of_decoding {n : Nat} {call : Call b} (h : Waiting n entries)
    (hcall : call.owner? = some (.decoding decoder)) :
    Makes decoder encoder j k (entries ++ [call]) (j + n) k := by
  have howners := h.owners_append hcall (List.forall_mem_nil _)
  refine ⟨?_, ?_, ?_⟩ <;> rw [howners]
  · exact fun owner? hmem => .inl (List.eq_of_mem_replicate hmem)
  · rw [List.count_replicate_self]
  · rw [List.count_replicate, if_neg (by simp), Nat.add_zero]

/-- Pictures for the converter in front of the encoder. -/
theorem Makes.of_converting {n : Nat} {call : Call b} (h : Waiting n entries)
    (hcall : call.owner? = some (.converting encoder))
    (hmore : ∀ call ∈ more, call.makes = false) :
    Makes decoder encoder j k (entries ++ call :: more) j (k + n) := by
  have howners := h.owners_append hcall hmore
  refine ⟨?_, ?_, ?_⟩ <;> rw [howners]
  · exact fun owner? hmem => .inr (List.eq_of_mem_replicate hmem)
  · rw [List.count_replicate, if_neg (by simp), Nat.add_zero]
  · rw [List.count_replicate_self]

end

/-! ## Stages -/

/-- Decoding a frame takes a picture out of the pool. It is back if no frame came out. -/
theorem DecodeStage.input_makes (e : Engine b σ) (unit : AccessUnit)
    (s : DecodeStage b.numbered) {j : Nat} (h : s.pool.Holds j) (encoder k : Nat)
    (journal : List (Call b)) :
    Writes (s.input e.journaled unit) journal fun entries a =>
      Makes s.context.number encoder j k entries 1 k
        ∧ a.2.context.number = s.context.number
        ∧ match a.1 with
          | none => a.2.pool.Holds 1
          | some _ => a.2.pool.Holds 0 := by
  have hone : j + (1 - j) = 1 := Nat.add_sub_of_le h.le_one
  unfold input
  refine (e.obtain_makes h journal).bind ?_
  rintro entries ⟨blank, pool⟩ ⟨hwaiting, hpool⟩
  refine (e.decode_follows _ s.context ⟨unit.data, unit.dts, unit.pts⟩ blank).writes.bind ?_
  rintro _ _ ⟨⟨outcome, picture, context⟩, rfl, rfl⟩
  have hmakes : Makes s.context.number encoder j k (entries
      ++ ([.decode s.context.number ⟨unit.data, unit.dts, unit.pts⟩ blank] ++ [])) 1 k := by
    rw [← hone]
    exact .of_decoding hwaiting rfl
  have hback : (pool.restore picture).Holds 1 := hpool.restore picture
  -- Only a frame that came out keeps the picture from its pool, until it is delivered.
  rcases outcome with cause | _ | _
  · exact .bind_note _ (.pure ⟨hmakes, rfl, hback⟩)
  · exact .pure ⟨hmakes, rfl, hback⟩
  · exact .pure ⟨hmakes, rfl, hpool⟩

namespace ConvertStage

/-- Setting a stage up asks for a converter at most, and makes nothing. -/
theorem prepare_makes (e : Engine b σ) (geometry : Geometry) (s : ConvertStage b.numbered)
    (journal : List (Call b)) :
    Writes (s.prepare e.journaled geometry) journal fun entries _ => Waiting 0 entries := by
  have hopen : Writes (openConversion e.journaled geometry s.target) journal
      fun entries _ => Waiting 0 entries := by
    unfold openConversion
    refine (e.openConverter_follows journal geometry s.target).writes.bind ?_
    rintro _ opened ⟨_, rfl, -⟩
    have hasked : Waiting 0 ([(.openConverter geometry s.target : Call b)] ++ []) :=
      ⟨List.forall_mem_singleton.mpr rfl, rfl⟩
    cases opened with
    | ok context => exact .bind_note _ (.pure hasked)
    | error cause => exact .bind_note _ (.pure hasked)
  unfold prepare
  -- Either a converter is opened, or nobody is asked.
  cases s.conversion with
  | idle => exact hopen
  | ready context current =>
      by_cases hsame : current = geometry
      · simp only [if_pos hsame]
        exact .pure .nil
      · simp only [if_neg hsame]
        exact .bind_note _ hopen
  | refused current =>
      by_cases hsame : current = geometry
      · simp only [if_pos hsame]
        exact .pure .nil
      · simp only [if_neg hsame]
        exact hopen

/-- Converting a frame takes a picture out of the pool. It is back unless it is the result,
    and then it is once the result is. -/
theorem convert_makes (e : Engine b σ) (frame : RawFrame b.Store) (s : ConvertStage b.numbered)
    {k : Nat} (h : s.pool.Holds k) (journal : List (Call b)) :
    Writes (s.convert e.journaled frame) journal fun entries a => ∃ n, Waiting n entries
      ∧ match a.1 with
        | none => a.2.pool.Holds (k + n)
        | some converted => (a.2.release converted.picture).pool.Holds (k + n) := by
  have hone : k + (1 - k) = 1 := Nat.add_sub_of_le h.le_one
  unfold convert
  cases frame.picture.geometry? with
  | none => exact .pure ⟨0, .nil, h⟩
  | some geometry =>
      by_cases hsame : geometry.format = s.target
      · simp only [if_pos hsame]
        exact .pure ⟨0, .nil, h⟩
      · simp only [if_neg hsame]
        refine (prepare_makes e geometry s journal).bind ?_
        intro entries conversion hentries
        cases conversion with
        | idle =>
            exact .pure ⟨0, hentries.append .nil, h⟩
        | refused geometry =>
            exact .pure ⟨0, hentries.append .nil, h⟩
        | ready context geometry =>
            refine (e.obtain_makes h _).bind ?_
            rintro more ⟨blank, pool⟩ ⟨hmore, hpool⟩
            refine (e.convert_follows _ context frame.picture blank).writes.bind ?_
            rintro _ _ ⟨⟨outcome, picture, context'⟩, rfl, rfl⟩
            have hwaiting : Waiting (0 + ((1 - k) + 0))
                (entries ++ (more ++ ([.convert frame.picture blank] ++ []))) :=
              hentries.append (hmore.append ⟨List.forall_mem_singleton.mpr rfl, rfl⟩)
            rw [Nat.zero_add, Nat.add_zero] at hwaiting
            -- The pool is empty now, so whichever way the picture comes back there is room.
            have hback (picture : Picture b.Store) :
                (pool.restore picture).Holds (k + (1 - k)) := by
              rw [hone]
              exact hpool.restore picture
            rcases outcome with cause | _
            · exact .bind_note _ (.pure ⟨1 - k, hwaiting, hback picture⟩)
            · exact .pure ⟨1 - k, hwaiting, hback _⟩

end ConvertStage

namespace EncodeStage

theorem Holds.setConverter {s : EncodeStage b} {k k' : Nat} (h : s.Holds k)
    {converter : ConvertStage b} (hconverter : converter.pool.Holds k') :
    Holds { s with converter := some converter } k' := ⟨h.1, hconverter⟩

/-- A converter that is new has an empty pool, as there were no pictures before. -/
theorem converterFor_makes (incoming : PixelFormat) (s : EncodeStage b.numbered) {k : Nat}
    (h : s.Holds k) (journal : List (Call b)) :
    Writes (s.converterFor incoming : Act (List (Call b) × σ) _) journal
      fun entries a => entries = [] ∧ a.pool.Holds k := by
  rcases h with ⟨hpool, h⟩
  unfold converterFor
  rcases hconverter : s.converter with _ | converter
  · rw [hconverter] at h
    cases h
    exact .bind_note _ (.pure ⟨rfl, Pool.holds_ofCapacity hpool⟩)
  · rw [hconverter] at h
    exact .pure ⟨rfl, h⟩

/-- Bringing a frame to the encoder may take a picture out of the pool. It is back before
    the encoder is asked. -/
theorem bring_makes (e : Engine b σ) (frame : RawFrame b.Store) (s : EncodeStage b.numbered)
    {k : Nat} (h : s.Holds k) (journal : List (Call b)) :
    Writes (s.bring e.journaled frame) journal fun entries a => ∃ n, Waiting n entries
      ∧ a.2.Holds (k + n) ∧ a.2.context = s.context ∧ (a.1 = none → entries = []) := by
  unfold bring
  cases s.trackType with
  | audio => exact .pure ⟨0, .nil, h, rfl, fun _ => rfl⟩
  | video =>
      cases frame.picture.pixel with
      | none => exact .bind_note _ (.pure ⟨0, .nil, h, rfl, fun _ => rfl⟩)
      | some incoming =>
          refine (converterFor_makes incoming s h journal).bind ?_
          rintro _ converter ⟨rfl, hconverter⟩
          refine (ConvertStage.convert_makes e frame converter hconverter _).bind ?_
          rintro entries ⟨converted?, converter'⟩ ⟨n, hwaiting, hconverter'⟩
          -- Converted or not, the picture is back by now, and all that was made still waits for
          -- its owner.
          rw [← List.append_nil entries] at hwaiting
          cases converted? with
          | none =>
              exact .pure ⟨n, hwaiting, h.setConverter hconverter', rfl, fun heq => nomatch heq⟩
          | some converted =>
              exact .pure ⟨n, hwaiting, h.setConverter hconverter', rfl, fun heq => nomatch heq⟩

/-- Encoding asks the encoder and has nothing made. -/
theorem encode_makes (e : Engine b σ) (sink : Sink σ) (picture : Picture b.Store)
    (s : EncodeStage b.numbered) {k : Nat} (h : s.Holds k) (journal : List (Call b)) :
    Writes (encode e.journaled sink.journaled.inputFrame picture s) journal
      fun entries a => a.2.Holds k ∧ a.2.context.number = s.context.number
        ∧ ∃ after, entries = .encode s.context.number picture :: after
          ∧ ∀ call ∈ after, call.makes = false := by
  unfold encode
  refine (e.encode_follows journal s.context picture).writes.bind ?_
  rintro _ _ ⟨⟨outcome, context⟩, rfl, rfl⟩
  rcases outcome with cause | _ | packet
  · exact .bind_note _ (.pure ⟨h, rfl, [], rfl, List.forall_mem_nil _⟩)
  · exact .pure ⟨h, rfl, [], rfl, List.forall_mem_nil _⟩
  · refine (sink.inputFrame_follows _ _).writes.bind ?_
    rintro _ answer ⟨_, rfl, -⟩
    exact .pure ⟨h, rfl, _, rfl, List.forall_mem_singleton.mpr rfl⟩

/-- Whatever is made while a frame is encoded is made for the converter, and is idle
    afterwards. -/
theorem input_makes (e : Engine b σ) (sink : Sink σ) (frame : RawFrame b.Store)
    (s : EncodeStage b.numbered) {k : Nat} (h : s.Holds k) (decoder j : Nat)
    (journal : List (Call b)) :
    Writes (s.input e.journaled sink.journaled.inputFrame frame) journal fun entries a =>
      ∃ k', Makes decoder s.context.number j k entries j k' ∧ a.2.Holds k'
        ∧ a.2.context.number = s.context.number := by
  by_cases hkind : frame.trackType = s.trackType
  · rw [input_eq _ _ _ _ hkind]
    refine (bring_makes e frame s h journal).bind ?_
    rintro entries ⟨picture?, brought⟩ ⟨n, hwaiting, hholds, hcontext, hnone⟩
    simp only at hcontext
    cases picture? with
    | none =>
        -- A frame that gets lost costs no call, since only an image without a format does.
        cases hnone rfl
        cases hwaiting.made
        exact .pure ⟨k, .nothing (List.forall_mem_nil _), hholds, by rw [hcontext]⟩
    | some picture =>
        refine (encode_makes e sink picture brought hholds _).mono ?_
        rintro _ a ⟨hholds', hnumber, after, rfl, hafter⟩
        rw [hcontext] at hnumber ⊢
        exact ⟨k + n, .of_converting hwaiting rfl hafter, hholds', hnumber⟩
  · unfold input
    simp only [if_neg hkind]
    exact .pure ⟨k, .nothing (List.forall_mem_nil _), h, rfl⟩

end EncodeStage

/-! ## Chains -/

/-- A decode stage that opens has a new pool of the given size. -/
theorem DecodeStage.pool_of_build {e : Engine b σ} {track : Track} {poolSize : Nat} {w : σ}
    {s : DecodeStage b} (h : (build e track poolSize w).value = .ok s) :
    s.pool = .ofCapacity poolSize := by
  unfold build at h
  rw [bind_value] at h
  generalize (select track.codec _ _ _ _ w).value = selection at h
  cases selection <;> cases h
  rfl

/-- An encode stage that opens remembers the size for the pool of its converter. -/
theorem EncodeStage.poolSize_of_build {e : Engine b σ} {settings : Settings} {poolSize : Nat}
    {w : σ} {s : EncodeStage b} (h : (build e settings poolSize w).value = .ok s) :
    s.poolSize = poolSize := by
  unfold build at h
  rw [bind_value] at h
  generalize (select settings.codec _ _ _ _ w).value = selection at h
  cases selection with
  | opened context implementation =>
      simp only [bind_value] at h
      generalize (formatsOf e settings.codec context _).value = formats at h
      cases formats <;> cases h
      rfl
  | unavailable => cases h
  | initFailed implementation cause => cases h

/-- Draining an encoder has nothing made. -/
theorem Drained.makes {encoder : Nat} {entries : List (Call b)} {outcome : Except Fault Unit}
    (h : Drained (Call.DrainsEncoder encoder) (· = .drainEncoder encoder true) entries outcome) :
    ∀ call ∈ entries, call.makes = false := by
  have hdrains (call : Call b) (hcall : call.DrainsEncoder encoder) : call.makes = false := by
    cases call <;> first | rfl | exact hcall.elim
  cases outcome with
  | error fault => exact fun call hcall => hdrains call (h call hcall)
  | ok _ =>
      rcases h with ⟨before, _, rfl, hbefore, rfl⟩
      exact List.forall_mem_append.mpr ⟨fun call hcall => hdrains call (hbefore call hcall),
        List.forall_mem_singleton.mpr rfl⟩

namespace Chain

/-- Encoding a decoded frame keeps nothing of its picture, and has pictures made for the converter
    alone. -/
theorem consumer_makes (e : Engine b σ) (sink : Sink σ) (frame : RawFrame b.Store)
    (encode : EncodeStage b.numbered) {k : Nat} (h : encode.Holds k) (decoder j : Nat)
    (journal : List (Call b)) :
    Writes (consumer e.journaled sink.journaled encode frame) journal fun entries a =>
      a.1.kept = false ∧ ∃ k', Makes decoder encode.context.number j k entries j k'
        ∧ a.2.Holds k' ∧ a.2.context.number = encode.context.number := by
  refine (encode.input_makes e sink frame h decoder j journal).bind ?_
  rintro entries ⟨outcome, encode'⟩ ⟨k', hmakes, hholds, hnumber⟩
  rw [← List.append_nil entries] at hmakes
  exact .pure ⟨rfl, k', hmakes, hholds, hnumber⟩

/-- Everything made for a frame put into a chain is made for its stages and is idle
    afterwards. -/
theorem input_makes (e : Engine b σ) (sink : Sink σ) (unit : AccessUnit) (c : Chain b.numbered)
    {j k : Nat} (h : c.Holds j k) (journal : List (Call b)) :
    Writes (c.input e.journaled sink.journaled unit) journal fun entries a =>
      ∃ j' k', Makes c.decoder c.encoder j k entries j' k' ∧ a.2.Holds j' k'
        ∧ a.2.decoder = c.decoder ∧ a.2.encoder = c.encoder := by
  unfold input DecodeStage.feed
  simp only [bind_assoc]
  refine (c.decode.input_makes e unit h.decode c.encoder k journal).bind ?_
  rintro entries ⟨frame?, decode⟩ ⟨hmakes, hnumber, hpool⟩
  cases frame? with
  | none =>
      simp only [pure_bind]
      rw [← List.append_nil entries] at hmakes
      exact .pure ⟨1, k, hmakes, ⟨hpool, h.encode⟩, hnumber, rfl⟩
  | some frame =>
      simp only [bind_assoc, pure_bind]
      refine (consumer_makes e sink frame c.encode h.encode c.decoder 1 _).bind ?_
      rintro more ⟨⟨outcome, kept⟩, encode⟩ ⟨hkept, k', hmore, hholds, hencoder⟩
      -- The picture of the decoder goes back to its pool, since nobody has kept it.
      cases hkept
      have hboth := hmakes.append hmore
      rw [← List.append_nil more] at hboth
      exact .pure ⟨1, k', hboth, ⟨hpool.restore frame.picture, hholds⟩, hnumber, hencoder⟩

/-- So is everything made while the decoder is drained, wherever the drain ends. -/
theorem decode_flush_makes (e : Engine b σ) (sink : Sink σ) (decode : DecodeStage b.numbered)
    (encode : EncodeStage b.numbered) {j k : Nat} (hdecode : decode.pool.Holds j)
    (hencode : encode.Holds k) (journal : List (Call b)) :
    Writes (decode.flush e.journaled (consumer e.journaled sink.journaled) encode) journal
      fun entries _ => ∃ k', Makes decode.context.number encode.context.number j k entries 1 k'
        ∧ k' ≤ 1 := by
  -- The induction is on what the decoder still holds.
  induction decode, encode using DecodeStage.flush.induct generalizing j k journal with
  | case1 decode encode ih =>
      have hone : j + (1 - j) = 1 := Nat.add_sub_of_le hdecode.le_one
      rw [DecodeStage.flush]
      refine (e.obtain_makes hdecode journal).bind ?_
      rintro entries ⟨blank, pool⟩ ⟨hwaiting, hpool⟩
      refine (e.drainDecoder_follows _ decode.context blank).writes.bind ?_
      rintro _ _ ⟨⟨picture, pull⟩, rfl, rfl⟩
      have hmakes : Makes decode.context.number encode.context.number j k
          (entries ++ [.drainDecoder decode.context.number blank pull.ends]) 1 k := by
        rw [← hone]
        exact .of_decoding hwaiting rfl
      rcases pull with ⟨⟨⟩, next, less⟩ | next | ⟨cause, next⟩
      · refine (consumer_makes e sink ⟨picture, some decode.codec⟩ encode hencode
          decode.context.number 1 _).bind ?_
        rintro more ⟨⟨outcome, kept⟩, encode'⟩ ⟨hkept, k', hmore, hholds, hnumber⟩
        cases hkept
        have hboth := hmakes.append hmore
        rw [List.append_assoc] at hboth
        cases outcome with
        | error fault =>
            rw [← List.append_nil more] at hboth
            exact .pure ⟨k', hboth, hholds.le_one⟩
        | ok _ =>
            -- The consumer kept nothing, so the picture is idle before the next one is needed.
            refine (ih pool ⟨picture, .empty ⟨decode.context.number, next⟩⟩
              ⟨decode.context.number, next⟩ less ⟨.ok (), false⟩ encode' (hpool.restore picture)
              hholds _).mono ?_
            rintro rest a ⟨k'', hrest, hk''⟩
            simp only at hnumber
            rw [hnumber] at hrest
            refine ⟨k'', ?_, hk''⟩
            have hall := hboth.append hrest
            simp only [List.append_assoc] at hall
            exact hall
      · exact .pure ⟨k, hmakes, hencode.le_one⟩
      · exact .bind_note _ (.pure ⟨k, hmakes, hencode.le_one⟩)

/-- Nothing is idle in a chain that was just opened. -/
theorem holds_of_build {e : Engine b σ} {track : Track} {settings : Settings} {poolSize : Nat}
    {w : σ} {c : Chain b} (hpoolSize : 0 < poolSize)
    (h : (build e track settings poolSize w).value = .ok c) : c.Holds 0 0 := by
  have hbuild := Chain.build_value e track settings poolSize w
  rw [h] at hbuild
  rcases hbuild with ⟨w', hdecode, hencode⟩
  refine ⟨?_, ?_, ?_⟩
  · rw [DecodeStage.pool_of_build hdecode]
    exact Pool.holds_ofCapacity hpoolSize
  · rw [EncodeStage.poolSize_of_build hencode]
    exact hpoolSize
  · rw [converter_of_build h]

/-- Draining a chain makes no more than one picture for each of its stages, together with
    what was made before. -/
theorem flush_makes (e : Engine b σ) (sink : Sink σ) (c : Chain b.numbered) {j k : Nat}
    (h : c.Holds j k) (journal : List (Call b)) :
    Writes (c.flush e.journaled sink.journaled) journal fun entries _ =>
      ∃ j' k', Makes c.decoder c.encoder j k entries j' k' ∧ j' ≤ 1 ∧ k' ≤ 1 := by
  unfold flush
  refine (decode_flush_makes e sink c.decode c.encode h.decode h.encode journal).bind ?_
  rintro entries ⟨outcome, decode, encode⟩ ⟨k', hmakes, hk'⟩
  cases outcome with
  | error fault =>
      rw [← List.append_nil entries] at hmakes
      exact .pure ⟨1, k', hmakes, Nat.le_refl 1, hk'⟩
  | ok _ =>
      refine (encode.flush_follows e sink _).writes.bind ?_
      rintro more ⟨outcome, encode'⟩ ⟨_, -, hdrained⟩
      -- The encoder is drained without pictures, so nothing is made after the decoder is empty.
      have hboth := hmakes.append (.nothing hdrained.makes)
      rw [← List.append_nil more] at hboth
      exact .pure ⟨1, k', hboth, Nat.le_refl 1, hk'⟩

/-- Opening a chain has nothing made, and nothing is idle in its pools. -/
theorem build_makes (e : Engine b σ) (track : Track) (settings : Settings) (poolSize : Nat)
    (hpoolSize : 0 < poolSize) (hkind : settings.trackType = track.trackType)
    (journal : List (Call b)) :
    Writes (build e.journaled track settings poolSize) journal fun entries a =>
      (∀ call ∈ entries, call.makes = false)
        ∧ ∀ c, a = .ok c → c.Holds 0 0 ∧ journal.length ≤ c.decoder
          ∧ journal.length ≤ c.encoder := by
  have hempty (w : List (Call b) × σ) (c : Chain b.numbered)
      (hc : (build e.journaled track settings poolSize w).value = .ok c) : c.Holds 0 0 :=
    holds_of_build hpoolSize hc
  refine ((build_follows e track settings poolSize hkind journal).writes.and_value
    (q := fun built => ∀ c, built = .ok c → c.Holds 0 0) hempty).mono ?_
  rintro entries built ⟨⟨_, -, hseeks, hnew⟩, hholds⟩
  refine ⟨fun call hcall => ?_, fun c hc => ⟨hholds c hc, (hnew c hc).1, (hnew c hc).2.1⟩⟩
  -- A search makes no picture.
  cases call <;> first | rfl | exact (hseeks _ hcall).elim False.elim False.elim

end Chain

/-- The pools of a usable configuration have room. -/
theorem Config.poolSize_pos {config : Config} (usable : config.validate = .ok ()) :
    0 < config.poolSize.toNat := by
  unfold validate at usable
  split_ifs at usable with haudio hvideo hpoolSize
  exact Nat.pos_of_ne_zero fun hzero => hpoolSize (UInt64.toNat_inj.mp hzero)

/-! ## Runs -/

namespace Transcoder

/-- Every picture was made for a stage, and at most one for each. Those made for the stages
    at work are idle in their pools. -/
structure Frugal (t : Transcoder b.numbered) (journal : List (Call b)) : Prop where
  owned : none ∉ owners journal
  once : ∀ owner, (owners journal).count (some owner) ≤ 1
  known : ∀ owner, some owner ∈ owners journal → owner.number < journal.length
  idle : ∀ kind c, t.lanes.get kind = some c →
    c.Holds ((owners journal).count (some (.decoding c.decoder)))
      ((owners journal).count (some (.converting c.encoder)))

variable {t : Transcoder b.numbered} {kind : TrackType} {journal entries : List (Call b)}

namespace Frugal

/-- A context that was only just opened has had no picture made. -/
theorem count_eq_zero (h : t.Frugal journal) (owner : Owner)
    (hnew : journal.length ≤ owner.number) : (owners journal).count (some owner) = 0 :=
  List.count_eq_zero.mpr fun hmem => absurd (h.known owner hmem) (Nat.not_lt.mpr hnew)

theorem nodup (h : t.Frugal journal) : (owners journal).Nodup := by
  refine List.nodup_iff_count_le_one.mpr fun owner? => ?_
  cases owner? with
  | none =>
      rw [List.count_eq_zero.mpr h.owned]
      exact Nat.zero_le 1
  | some owner => exact h.once owner

theorem quiet (h : t.Frugal journal) (hentries : ∀ call ∈ entries, call.makes = false) :
    t.Frugal (journal ++ entries) := by
  have howners : owners (journal ++ entries) = owners journal := by
    rw [owners_append h.owned, owners_eq_nil hentries, List.append_nil]
  refine ⟨?_, ?_, ?_, ?_⟩ <;> rw [howners]
  · exact h.owned
  · exact h.once
  · intro owner hmem
    rw [List.length_append]
    exact Nat.lt_add_right _ (h.known owner hmem)
  · exact h.idle

/-- An operation may say something to the sink before it ends. -/
theorem told (h : t.Frugal journal) (call : SinkCall) :
    t.Frugal (journal ++ ([.told call] ++ [])) :=
  h.quiet (List.forall_mem_singleton.mpr rfl)

/-- A lane may be emptied, or given a chain whose pools hold what was made for it. -/
theorem setLane (h : t.Frugal journal) (kind : TrackType) (chain? : Option (Chain b.numbered))
    (hchain : ∀ c, chain? = some c →
      c.Holds ((owners journal).count (some (.decoding c.decoder)))
        ((owners journal).count (some (.converting c.encoder)))) :
    (t.setLane kind chain?).Frugal journal := by
  refine ⟨h.owned, h.once, h.known, fun k c hc => ?_⟩
  by_cases hk : k = kind
  · subst hk
    rw [get_setLane_self] at hc
    exact hchain c hc
  · rw [get_setLane_of_ne _ hk] at hc
    exact h.idle k c hc

/-- What one chain has made does not concern the chain of the other lane. -/
theorem act (h : t.Frugal journal) (htidy : t.Tidy journal) {c : Chain b.numbered}
    (hc : t.lanes.get kind = some c) {j' k' : Nat}
    (hmakes : Makes c.decoder c.encoder ((owners journal).count (some (.decoding c.decoder)))
      ((owners journal).count (some (.converting c.encoder))) entries j' k')
    (hj' : j' ≤ 1) (hk' : k' ≤ 1) (chain? : Option (Chain b.numbered))
    (hchain : ∀ c', chain? = some c' →
      c'.Holds j' k' ∧ c'.decoder = c.decoder ∧ c'.encoder = c.encoder) :
    (t.setLane kind chain?).Frugal (journal ++ entries) := by
  have hpaired := (htidy.intact kind c hc).paired
  have hcount (owner : Owner) : (owners (journal ++ entries)).count (some owner)
      = (owners journal).count (some owner) + (owners entries).count (some owner) := by
    rw [owners_append h.owned, List.count_append]
  have hdecoding := (hcount (.decoding c.decoder)).trans hmakes.decoding
  have hconverting := (hcount (.converting c.encoder)).trans hmakes.converting
  have hother {owner : Owner} (hd : owner ≠ .decoding c.decoder)
      (he : owner ≠ .converting c.encoder) : (owners (journal ++ entries)).count (some owner)
        = (owners journal).count (some owner) := by
    rw [hcount, hmakes.count_eq_zero hd he, Nat.add_zero]
  -- Counts go up for the two stages of the chain only, and for them `Makes` gives the sum.
  refine ⟨?_, fun owner => ?_, fun owner hmem => ?_, fun k c' hc' => ?_⟩
  · rw [owners_append h.owned]
    exact fun hmem => (List.mem_append.mp hmem).elim h.owned hmakes.none_not_mem
  · by_cases hd : owner = .decoding c.decoder
    · rw [hd, hdecoding]
      exact hj'
    · by_cases he : owner = .converting c.encoder
      · rw [he, hconverting]
        exact hk'
      · rw [hother hd he]
        exact h.once owner
  · rw [List.length_append]
    rw [owners_append h.owned] at hmem
    refine Nat.lt_add_right _ ((List.mem_append.mp hmem).elim (h.known owner) fun hmem => ?_)
    rcases hmakes.owned _ hmem with heq | heq
    · cases heq
      exact hpaired.decoderAt.lt
    · cases heq
      exact hpaired.encoderAt.lt
  · by_cases hk : k = kind
    · subst hk
      rw [get_setLane_self] at hc'
      rcases hchain c' hc' with ⟨hholds, hdecoder, hencoder⟩
      rw [hdecoder, hencoder, hdecoding, hconverting]
      exact hholds
    · rw [get_setLane_of_ne _ hk] at hc'
      have hpaired' := (htidy.intact k c' hc').paired
      -- The contexts are of different kinds, so they have different numbers.
      have hdecoder : c'.decoder ≠ c.decoder := fun heq =>
        hk (hpaired'.decoderAt.kind_eq (heq ▸ hpaired.decoderAt))
      have hencoder : c'.encoder ≠ c.encoder := fun heq =>
        hk (hpaired'.encoderAt.kind_eq (heq ▸ hpaired.encoderAt))
      have hdecoding' := hother (fun heq => hdecoder (Owner.decoding.inj heq)) Owner.noConfusion
      have hconverting' := hother Owner.noConfusion fun heq => hencoder (Owner.converting.inj heq)
      rw [hdecoding', hconverting']
      exact h.idle k c' hc'

end Frugal

/-- A chain that is opened for a track begins without pictures. -/
theorem addTrack_frugal (e : Engine b σ) (sink : Sink σ) (track : Track) (h : t.Frugal journal) :
    Writes (t.addTrack e.journaled sink.journaled track) journal
      fun entries a => a.2.Frugal (journal ++ entries) := by
  have hempty : (t.setLane track.trackType none).Frugal journal :=
    h.setLane track.trackType none fun c hc => nomatch hc
  unfold addTrack
  by_cases hsame : track.codec = t.target track.trackType
  · simp only [if_pos hsame]
    refine .bind_note _ ((sink.addTrack_follows journal track).writes.bind ?_)
    rintro _ answer ⟨_, rfl, -⟩
    exact .pure (hempty.told _)
  · simp only [if_neg hsame]
    have hkind : (Settings.ofTrack (t.target track.trackType) track).trackType
        = track.trackType := by
      rw [Settings.trackType, Settings.ofTrack_codec]
      exact Config.target_trackType t.usable _
    refine (Chain.build_makes e track _ _ (Config.poolSize_pos t.usable) hkind journal).bind ?_
    rintro entries built ⟨hentries, hbuilt⟩
    cases built with
    | error fault =>
        refine .pure ?_
        rw [List.append_nil]
        exact hempty.quiet hentries
    | ok c =>
        rcases hbuilt c rfl with ⟨hholds, hdecoder, hencoder⟩
        -- The contexts were opened at places that the journal did not have before, so no
        -- picture in it was made for them.
        have hadded : (t.setLane track.trackType (some c)).Frugal journal := by
          refine h.setLane track.trackType _ ?_
          rintro _ ⟨⟩
          rw [h.count_eq_zero (.decoding c.decoder) hdecoder,
            h.count_eq_zero (.converting c.encoder) hencoder]
          exact hholds
        refine .bind_note _ ((sink.addTrack_follows _ _).writes.bind ?_)
        rintro _ answer ⟨_, rfl, -⟩
        refine .pure ?_
        rw [setLane_setLane, ← List.append_assoc]
        exact (hadded.quiet hentries).told _

/-- Putting a frame in has pictures made for the chain of its kind at most. -/
theorem inputFrame_frugal (e : Engine b σ) (sink : Sink σ) (unit : AccessUnit)
    (h : t.Frugal journal) (htidy : t.Tidy journal) :
    Writes (t.inputFrame e.journaled sink.journaled unit) journal
      fun entries a => a.2.Frugal (journal ++ entries) := by
  have hnothing : t.Frugal (journal ++ []) := by
    rw [List.append_nil]
    exact h
  unfold inputFrame
  by_cases hsame : unit.codec = t.target unit.trackType
  · simp only [if_pos hsame]
    refine (sink.inputFrame_follows journal unit).writes.bind ?_
    rintro _ answer ⟨_, rfl, -⟩
    exact .pure (h.told _)
  · simp only [if_neg hsame]
    rcases hc : t.lanes.get unit.trackType with _ | c
    · exact .bind_note _ (.pure hnothing)
    · by_cases hcodec : c.decode.codec = unit.codec
      · simp only [if_pos hcodec]
        -- Only the chain of the kind may have a picture made, and each of its stages one.
        refine (c.input_makes e sink unit (h.idle _ c hc) journal).bind ?_
        rintro entries ⟨outcome, c'⟩ ⟨j', k', hmakes, hholds, hdecoder, hencoder⟩
        refine .pure ?_
        rw [List.append_nil]
        refine h.act htidy hc hmakes hholds.decode.le_one hholds.encode.le_one _ ?_
        rintro _ ⟨⟩
        exact ⟨hholds, hdecoder, hencoder⟩
      · simp only [if_neg hcodec]
        exact .bind_note _ (.pure hnothing)

/-- Draining a lane has no more pictures made than its chain may have. -/
theorem flushLane_frugal (e : Engine b σ) (sink : Sink σ) (kind : TrackType)
    (h : t.Frugal journal) (htidy : t.Tidy journal) :
    Writes (t.flushLane e.journaled sink.journaled kind) journal
      fun entries a => a.2.Frugal (journal ++ entries) := by
  unfold flushLane
  rcases hc : t.lanes.get kind with _ | c
  · exact .pure (by rw [List.append_nil]; exact h)
  · refine (c.flush_makes e sink (h.idle kind c hc) journal).bind ?_
    rintro entries outcome ⟨j', k', hmakes, hj', hk'⟩
    -- Nobody reaches the chain any more, so what is idle in its pools does not matter.
    have hdone : (t.setLane kind none).Frugal (journal ++ entries) :=
      h.act htidy hc hmakes hj' hk' none fun _ heq => nomatch heq
    rw [← List.append_nil entries] at hdone
    cases outcome with
    | error fault => exact .pure hdone
    | ok _ => exact .bind_note _ (.pure hdone)

/-- The two lanes are drained one after the other. -/
theorem flush_frugal (e : Engine b σ) (sink : Sink σ) (h : t.Frugal journal)
    (htidy : t.Tidy journal) :
    Writes (t.flush e.journaled sink.journaled) journal
      fun entries a => a.2.Frugal (journal ++ entries) := by
  unfold flush
  -- What the first drain leaves has to be tidy as well, for the contexts to be told apart.
  refine ((flushLane_frugal e sink .audio h htidy).and
    (flushLane_tidy e sink .audio htidy).writes).bind ?_
  rintro entries ⟨outcome, t'⟩ ⟨hfrugal, _, -, htidy'⟩
  cases outcome with
  | error fault => exact .pure (by rw [List.append_nil]; exact hfrugal)
  | ok _ =>
      refine (flushLane_frugal e sink .video hfrugal htidy').mono fun more a hmore => ?_
      rw [← List.append_assoc]
      exact hmore

/-- Every operation keeps a transcoder frugal. -/
theorem perform_frugal (e : Engine b σ) (sink : Sink σ) (op : Operation) (h : t.Frugal journal)
    (htidy : t.Tidy journal) :
    Writes (t.perform e.journaled sink.journaled op) journal
      fun entries a => a.2.Frugal (journal ++ entries) := by
  cases op with
  | addTrack track => exact addTrack_frugal e sink track h
  | inputFrame unit => exact inputFrame_frugal e sink unit h htidy
  | flush => exact flush_frugal e sink h htidy
  | tracksCompleted =>
      refine (sink.tracksCompleted_follows journal).writes.bind ?_
      rintro _ _ ⟨_, rfl⟩
      exact .pure (h.told _)
  | resetTracks =>
      simp only [perform, resetTracks, bind_assoc, pure_bind]
      refine (sink.resetTracks_follows journal).writes.bind ?_
      rintro _ _ ⟨_, rfl⟩
      -- Chains are gone after a reset, and their pictures stay accounted for.
      have hreset := h.told .resetTracks
      refine .pure ⟨hreset.owned, hreset.once, hreset.known, fun kind c hc => ?_⟩
      cases kind <;> cases hc

/-- So does a whole history. -/
theorem run_frugal (e : Engine b σ) (sink : Sink σ) (ops : List Operation) (h : t.Frugal journal)
    (htidy : t.Tidy journal) :
    Writes (t.run e.journaled sink.journaled ops) journal
      fun entries a => a.2.Frugal (journal ++ entries) := by
  -- The induction is on the history, along which a transcoder stays both tidy and frugal.
  induction ops generalizing t journal with
  | nil => exact .pure (by rw [List.append_nil]; exact h)
  | cons op ops ih =>
      refine ((perform_frugal e sink op h htidy).and (perform_tidy e sink op htidy).writes).bind ?_
      rintro entries ⟨outcome, t'⟩ ⟨hfrugal, _, -, htidy'⟩
      refine (ih hfrugal htidy').bind ?_
      rintro more ⟨outcomes, t''⟩ hmore
      refine .pure ?_
      rw [List.append_nil, ← List.append_assoc]
      exact hmore

theorem ofConfig_frugal {config : Config} (h : ofConfig config = .ok t) : t.Frugal [] := by
  rcases ofConfig_ok h with ⟨-, hlanes⟩
  refine ⟨List.not_mem_nil, fun _ => Nat.zero_le 1, ?_, fun kind c hc => ?_⟩
  · exact fun owner hmem => absurd hmem List.not_mem_nil
  rw [hlanes] at hc
  cases kind <;> cases hc

/-- A transcoder runs on one picture for each stage. Take any history of a transcoder with any
    usable configuration, any engine and any sink, and with every call written to a journal.
    The journal changes nothing else. All pictures in it were made for decode stages and
    converters, and none of these had two made in its whole life. No picture is in use between
    the operations: those made for the stages at work, one for each or none yet, are idle in
    their pools. -/
theorem run_makes_once (config : Config) (start : Transcoder b.numbered)
    (hstart : ofConfig config = .ok start) (e : Engine b σ) (sink : Sink σ)
    (ops : List Operation) (w : σ) :
    let alone := start.bare.run e sink ops w
    let journaled := start.run e.journaled sink.journaled ops ([], w)
    ∃ journal t, ofConfig config = .ok start.bare
      ∧ journaled = ⟨(alone.value.1, t), alone.notes, (journal, alone.world)⟩
      ∧ t.bare = alone.value.2
      ∧ none ∉ owners journal ∧ (owners journal).Nodup
      ∧ ∀ kind c, t.lanes.get kind = some c →
          c.decode.pool.available = (owners journal).count (some (.decoding c.decoder))
            ∧ c.encode.idle = (owners journal).count (some (.converting c.encoder)) := by
  intro alone journaled
  rcases run_tidy e sink ops (ofConfig_tidy hstart) w with ⟨journal, ⟨outcomes, t⟩, hrun, hvalue, -⟩
  rcases run_frugal e sink ops (ofConfig_frugal hstart) (ofConfig_tidy hstart) w with
    ⟨journal', hjournal, hfrugal⟩
  rw [hrun] at hjournal hfrugal
  -- Both speak of the same run, and so of the same journal.
  cases List.append_cancel_left hjournal
  rw [List.nil_append] at hfrugal
  refine ⟨journal, t, ofConfig_bare hstart, ?_, (congrArg Prod.snd hvalue).symm, hfrugal.owned,
    hfrugal.nodup, fun kind c hc => ?_⟩
  · rw [hvalue]
    exact hrun
  · have hidle := hfrugal.idle kind c hc
    exact ⟨hidle.decode.available, hidle.encode.idle_eq⟩

/-- An H.265 stream whose pictures are converted, with a packet that cannot be decoded and a
    sink that refuses a frame. Four frames are put in and two pictures are made, one for each
    stage, and both are idle in the end. -/
theorem run_makes_once_converted_pictures :
    let start : Transcoder Loopback.backend.numbered :=
      { config := .default, usable := rfl, lanes := ⟨none, none⟩ }
    let e := Loopback.engine { decoderOutput := .nv12 }
    let sink : Sink Loopback.Tally := .taking (fun _ => pure (.ok ())) fun unit =>
      pure (if unit.dts = 0 then .error (.sink ⟨"full", []⟩) else .ok ())
    let ops : List Operation :=
      [.addTrack (.video .h265 640 480 ⟨0⟩), .inputFrame ⟨.h265, 0, 0, [1]⟩,
        .inputFrame ⟨.h265, 40, 40, Loopback.corrupt⟩, .inputFrame ⟨.h265, 80, 80, [3]⟩,
        .inputFrame ⟨.h265, 120, 120, [4]⟩]
    let journaled := start.run e.journaled sink.journaled ops ([], {})
    ofConfig .default = .ok start
      ∧ owners journaled.world.1 = [some (.decoding 4), some (.converting 10)]
      ∧ (journaled.value.2.lanes.get .video).map
          (fun c => (c.decode.pool.available, c.encode.idle)) = some (1, 1) := by
  intro start e sink ops journaled
  have hmade : owners journaled.world.1 = [some (.decoding 4), some (.converting 10)]
      ∧ (journaled.value.2.lanes.get .video).map (fun c => (c.decoder, c.encoder))
        = some (4, 10) := by
    revert start e sink ops
    cbv
  rcases run_makes_once .default start rfl e sink ops {} with ⟨journal, t, -, hrun, -, -, -, hidle⟩
  have hjournal : journaled.world.1 = journal := congrArg (fun o => o.world.1) hrun
  have ht : journaled.value.2 = t := congrArg (fun o => o.value.2) hrun
  rcases hmade with ⟨hmade, hnumbers⟩
  refine ⟨rfl, hmade, ?_⟩
  rw [ht] at hnumbers ⊢
  rw [← hjournal, hmade] at hidle
  rcases Option.map_eq_some_iff.mp hnumbers with ⟨c, hc, hnumbers⟩
  rcases Prod.mk.inj hnumbers with ⟨hdecoder, hencoder⟩
  -- The counts are those of the two owners in the list.
  rcases hidle .video c hc with ⟨hdecode, hencode⟩
  rw [hdecoder] at hdecode
  rw [hencoder] at hencode
  rw [hc, Option.map_some, hdecode, hencode]
  rfl

end Transcoder

end Recode
