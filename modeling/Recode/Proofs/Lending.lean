import Mathlib
import Recode.Pool.Lending

/-!
# What becomes of lent buffers

A buffer moves between the handles and the idle stack of the pool, in whatever order
the handles are given out and die, while the capacity changes and the pool itself may
go. Its number tells where it is. Three things have to be kept in mind together: no
number is in use twice, no buffer in use was reset other than by being handed out
again, and the idle buffers lie in the order in which they were returned.

The last two speak about the past. So a run comes with two lists, the numbers returned
and the numbers handed out, which are gathered from the moves along the way.

The order of the idle buffers is said of whatever lies at the bottom of the stack: of
the buffers there, the one on top was returned last. Taking from the stack and cutting
it down to a capacity only leave something that was at the bottom before, and a buffer
put on top is not among those below it.

## Main definitions

* `Lending.Booked`: Numbers and reset counts are as they should be.
* `Lending.Latest`: The idle buffers lie in the order of their returns.
* `Lending.inUse`: The buffers under handles and those that are idle.
* `Lending.Place`, `Lending.Keeps`: Where a buffer is.
* `Lending.returnedBy`, `Lending.handedBy`, `Lending.gather`: The past of a run.
* `Lending.Exchange`: What a move does to the buffers in use.
* `Lending.Traced`: What is known of the present from the past.

## Theorems

* `Lending.step_exchange`: Every move is one of these exchanges.
* `Lending.Traced.step`: What a move preserves.
* `Lending.Traced.run`: What a run preserves.
* `Lending.run_lends`: Buffers are never shared, never kept beyond the capacity, and
  never handed out as they were left.
-/

namespace Recode

namespace Lending

variable {α δ : Type}

/-- Numbers and reset counts of some buffers are as they should be, after `made` buffers have
    been made and these numbers handed out. -/
structure Booked (made : Nat) (handed : List Nat) (buffers : List (Buffer α)) : Prop where
  /-- No number is in use twice. -/
  distinct : (buffers.map Buffer.serial).Nodup
  /-- Only numbers given to a buffer are in use. -/
  numbered : ∀ b ∈ buffers, b.serial ≤ made
  /-- A buffer was reset whenever it was handed out, except for the first time. -/
  counted : ∀ b ∈ buffers, b.recycled + 1 = handed.count b.serial
  /-- Only numbers given to a buffer were handed out. -/
  known : ∀ serial ∈ handed, serial ≤ made

namespace Booked

variable {made : Nat} {handed : List Nat} {b b' : Buffer α} {buffers buffers' : List (Buffer α)}

theorem empty : Booked (α := α) 0 [] [] :=
  ⟨List.nodup_nil, nofun, nofun, nofun⟩

/-- Buffers may be let go, and their order does not matter. -/
theorem subperm (h : Booked made handed buffers) (hsub : buffers'.Subperm buffers) :
    Booked made handed buffers' where
  distinct := by
    rcases hsub with ⟨kept, hperm, hkept⟩
    exact (hperm.map _).nodup_iff.mp (h.distinct.sublist (hkept.map _))
  numbered := fun b hb => h.numbered b (hsub.subset hb)
  counted := fun b hb => h.counted b (hsub.subset hb)
  known := h.known

theorem serial_ne (h : Booked made handed (b :: buffers)) :
    ∀ other ∈ buffers, other.serial ≠ b.serial := by
  intro other hother heq
  have hnot := (List.nodup_cons.mp h.distinct).1
  exact hnot (heq ▸ List.mem_map_of_mem hother)

/-- Data does not count. -/
theorem replace (h : Booked made handed (b :: buffers)) (hserial : b'.serial = b.serial)
    (hrecycled : b'.recycled = b.recycled) : Booked made handed (b' :: buffers) where
  distinct := by
    rw [List.map_cons, hserial]
    exact h.distinct
  numbered := by
    rw [List.forall_mem_cons, hserial]
    exact List.forall_mem_cons.mp h.numbered
  counted := by
    rw [List.forall_mem_cons, hserial, hrecycled]
    exact List.forall_mem_cons.mp h.counted
  known := h.known

/-- One of the buffers is reset and handed out. -/
theorem recycle [Contents α δ] (h : Booked made handed (b :: buffers)) :
    Booked made (handed ++ [b.serial]) (b.recycle :: buffers) where
  distinct := h.distinct
  numbered := List.forall_mem_cons.mpr (List.forall_mem_cons.mp h.numbered)
  counted := by
    rcases List.forall_mem_cons.mp h.counted with ⟨hb, hothers⟩
    -- Its number was handed out once more, and no other buffer has this number.
    refine List.forall_mem_cons.mpr ⟨?_, fun other hother => ?_⟩
    · simp only [Buffer.recycle, List.count_append, List.count_singleton_self]
      omega
    · rw [List.count_append, List.count_singleton, hothers other hother]
      simp [(h.serial_ne other hother).symm]
  known := by
    intro serial hmem
    rcases List.mem_append.mp hmem with hold | hnew
    · exact h.known serial hold
    · rw [List.mem_singleton.mp hnew]
      exact h.numbered b List.mem_cons_self

/-- A new buffer is handed out. -/
theorem ofSerial [Contents α δ] (h : Booked made handed buffers) :
    Booked (made + 1) (handed ++ [made + 1]) (.ofSerial (made + 1) :: buffers) where
  distinct := by
    refine List.nodup_cons.mpr ⟨fun hmem => ?_, h.distinct⟩
    rcases List.mem_map.mp hmem with ⟨other, hother, heq⟩
    -- All numbers so far are below the new one.
    have hle := h.numbered other hother
    rw [Buffer.serial_ofSerial] at heq
    omega
  numbered :=
    List.forall_mem_cons.mpr ⟨Nat.le_refl _, fun b hb => Nat.le_succ_of_le (h.numbered b hb)⟩
  counted := by
    refine List.forall_mem_cons.mpr ⟨?_, fun other hother => ?_⟩
    · have hnew : made + 1 ∉ handed := fun hmem => Nat.not_succ_le_self _ (h.known _ hmem)
      simp [Buffer.ofSerial, List.count_append, List.count_eq_zero_of_not_mem hnew]
    · have hne : made + 1 ≠ other.serial := by
        have hle := h.numbered other hother
        omega
      rw [List.count_append, List.count_singleton, h.counted other hother]
      simp [hne]
  known := by
    intro serial hmem
    rcases List.mem_append.mp hmem with hold | hnew
    · exact Nat.le_succ_of_le (h.known serial hold)
    · exact (List.mem_singleton.mp hnew).le

end Booked

/-- The numbers on a stack lie in the order of their returns, of which the last comes first:
    of those at the bottom the one on top was returned last. -/
def Latest (stack returned : List Nat) : Prop :=
  ∀ bottom, bottom <:+ stack → returned.find? (· ∈ bottom) = bottom.head?

namespace Latest

variable {serial : Nat} {stack stack' returned : List Nat}

theorem empty (returned : List Nat) : Latest [] returned := by
  intro bottom hbottom
  rw [List.suffix_nil.mp hbottom]
  simp

theorem suffix (h : Latest stack returned) (hsuffix : stack' <:+ stack) : Latest stack' returned :=
  fun bottom hbottom => h bottom (hbottom.trans hsuffix)

/-- What is returned may be let go. -/
theorem skip (h : Latest stack returned) (hnew : serial ∉ stack) :
    Latest stack (serial :: returned) := by
  intro bottom hbottom
  -- The search goes past what is not on the stack.
  rw [List.find?_cons_of_neg]
  · exact h bottom hbottom
  · simpa using fun hmem => hnew (hbottom.subset hmem)

/-- What is returned may be put on top. -/
theorem push (h : Latest stack returned) (hnew : serial ∉ stack) :
    Latest (serial :: stack) (serial :: returned) := by
  intro bottom hbottom
  rcases List.suffix_cons_iff.mp hbottom with rfl | hbelow
  · simp
  · exact h.skip hnew bottom hbelow

end Latest

/-- The idle buffers, the one on top in front. -/
def idle (l : Lending α) : List (Buffer α) := l.pool.elim [] Pool.idle

/-- The buffers under handles and those that are idle. -/
def inUse (l : Lending α) : List (Buffer α) := l.handles.reduceOption ++ l.idle

/-- Where a buffer may be. -/
inductive Place where
  | held (handle : Nat)
  | idle (position : Nat)
  | gone
deriving DecidableEq, Repr

section

variable [Contents α δ]

/-- The buffer with this number is at a place. It is gone if nothing brings it back. -/
def Keeps (l : Lending α) (serial : Nat) : Place → Prop
  | .held handle => (l.held? handle).map Buffer.serial = some serial
  | .idle position => l.idle[position]?.map Buffer.serial = some serial
  | .gone => ∀ moves : List (Move δ), ∀ b ∈ (l.run moves).inUse, b.serial ≠ serial

/-- A move does something to the buffer under a handle. -/
def Move.Touches (handle : Nat) : Move δ → Prop
  | .write other _ => other = handle
  | .drop other => other = handle
  | .dropAll => True
  | .obtain | .read _ | .configure _ | .dropPool => False

/-- The numbers of the buffers that a move returns, in order. -/
def returnedBy (l : Lending α) : Move δ → List Nat
  | .drop handle => (l.held? handle).toList.map Buffer.serial
  | .dropAll => l.handles.reduceOption.map Buffer.serial
  | .obtain | .write .. | .read _ | .configure _ | .dropPool => []

/-- The number of the buffer that a move hands out. -/
def handedBy (l : Lending α) : Move δ → List Nat
  | .obtain => l.obtain.1.toList.map Buffer.serial
  | .write .. | .read _ | .drop _ | .dropAll | .configure _ | .dropPool => []

/-- What is told about each move of a run, in a row. -/
def gather (about : Lending α → Move δ → List Nat) (l : Lending α) : List (Move δ) → List Nat
  | [] => []
  | move :: moves => about l move ++ gather about (l.step move).2 moves

end

section

variable {l : Lending α} {handle other : Nat} {b : Buffer α}

theorem handles_of_held (h : l.held? handle = some b) : l.handles[handle]? = some (some b) :=
  Option.join_eq_some_iff.mp h

theorem lt_of_held (h : l.held? handle = some b) : handle < l.handles.length :=
  (List.getElem?_eq_some_iff.mp (handles_of_held h)).1

/-- What is under a handle can be put in front of the rest. -/
theorem reduceOption_set (handles : List (Option (Buffer α))) (handle : Nat)
    (h : handle < handles.length) (held : Option (Buffer α)) :
    ((handles.set handle held).reduceOption).Perm
      (held.toList ++ (handles.set handle none).reduceOption) := by
  rw [List.set_eq_take_append_cons_drop, List.set_eq_take_append_cons_drop, if_pos h, if_pos h]
  cases held with
  | none => exact List.Perm.refl _
  | some b =>
      simp only [List.reduceOption_append, List.reduceOption_cons_of_some,
        List.reduceOption_cons_of_none, Option.toList_some, List.singleton_append]
      exact List.perm_middle

/-- What is left in use when the buffer under a handle is taken away. -/
def inUseBut (l : Lending α) (handle : Nat) : List (Buffer α) :=
  (l.handles.set handle none).reduceOption ++ l.idle

/-- What is in use is the buffer under a handle, and the rest. -/
theorem inUse_perm (h : l.held? handle = some b) : l.inUse.Perm (b :: l.inUseBut handle) := by
  have hset := reduceOption_set l.handles handle (lt_of_held h) (some b)
  rcases List.getElem?_eq_some_iff.mp (handles_of_held h) with ⟨hlt, heq⟩
  rw [← heq, List.set_getElem_self hlt, heq] at hset
  exact hset.append_right _

theorem mem_inUse_of_held (h : l.held? handle = some b) : b ∈ l.inUse :=
  (inUse_perm h).mem_iff.mpr List.mem_cons_self

/-- The buffer under another handle is among what is left. -/
theorem mem_inUseBut (h : l.held? other = some b) (hne : other ≠ handle) :
    b ∈ l.inUseBut handle := by
  refine List.mem_append_left _ (List.reduceOption_mem_iff.mpr ?_)
  refine List.mem_iff_getElem?.mpr ⟨other, ?_⟩
  rw [List.getElem?_set_ne hne.symm, handles_of_held h]

theorem idle_subset_inUseBut : l.idle ⊆ l.inUseBut handle := List.subset_append_right _ _

theorem mem_inUse : b ∈ l.inUse ↔ (∃ handle, l.held? handle = some b) ∨ b ∈ l.idle := by
  rw [inUse, List.mem_append, List.reduceOption_mem_iff, List.mem_iff_getElem?]
  simp only [held?, Option.join_eq_some_iff]

end

section

variable [Contents α δ] {l : Lending α} {handle other : Nat} {b : Buffer α}
  {pool : Pool (Buffer α)}

theorem drop_of_dead (h : l.held? handle = none) : l.drop handle = l := by
  rw [drop, h]

theorem drop_of_held (h : l.held? handle = some b) :
    l.drop handle
      = { l with pool := l.pool.map (·.restore b), handles := l.handles.set handle none } := by
  rw [drop, h]

@[simp] theorem held?_drop_self (l : Lending α) (handle : Nat) :
    (l.drop handle).held? handle = none := by
  cases h : l.held? handle with
  | none => rw [drop_of_dead h, h]
  | some b =>
      rw [drop_of_held h, held?, List.getElem?_set_self (lt_of_held h)]
      rfl

theorem held?_drop_other (hne : handle ≠ other) : (l.drop handle).held? other = l.held? other := by
  cases h : l.held? handle with
  | none => rw [drop_of_dead h]
  | some b =>
      rw [drop_of_held h, held?, List.getElem?_set_ne hne]
      rfl

/-- The pool is there and can keep another buffer. -/
def HasRoom (l : Lending α) : Prop :=
  ∃ pool, l.pool = some pool ∧ pool.available < pool.capacity

/-- A dropped buffer goes on top of the idle ones if there is room for it, and is let go
    otherwise. -/
theorem idle_drop (h : l.held? handle = some b) :
    (l.HasRoom ∧ (l.drop handle).idle = b :: l.idle)
      ∨ (¬ l.HasRoom ∧ (l.drop handle).idle = l.idle) := by
  rw [drop_of_held h]
  cases hpool : l.pool with
  | none => exact .inr ⟨by simp [HasRoom, hpool], by simp [idle, hpool]⟩
  | some pool =>
      by_cases hroom : pool.available < pool.capacity
      · refine .inl ⟨⟨pool, hpool, hroom⟩, ?_⟩
        simp only [idle, hpool, Option.map_some, Option.elim_some, Pool.restore,
          if_pos (show pool.idle.length < pool.capacity from hroom)]
      · refine .inr ⟨by simpa [HasRoom, hpool] using hroom, ?_⟩
        simp only [idle, hpool, Option.map_some, Option.elim_some, Pool.restore,
          if_neg (show ¬ pool.idle.length < pool.capacity from hroom)]

/-- Dropping a handle brings nothing into use. -/
theorem drop_subperm (l : Lending α) (handle : Nat) : (l.drop handle).inUse.Subperm l.inUse := by
  cases h : l.held? handle with
  | none => rw [drop_of_dead h]
  | some b =>
      have hhandles : (l.drop handle).handles = l.handles.set handle none := by
        rw [drop_of_held h]
      rw [(inUse_perm h).subperm_left, inUse, hhandles]
      -- Kept or not, it was in use before.
      rcases idle_drop h with ⟨-, hidle⟩ | ⟨-, hidle⟩
      · rw [hidle]
        exact List.perm_middle.subperm
      · rw [hidle]
        exact (List.sublist_cons_self b _).subperm

@[simp] theorem made_drop (l : Lending α) (handle : Nat) : (l.drop handle).made = l.made := by
  unfold drop
  split <;> rfl

/-- What every drop preserves is preserved by dropping all. -/
theorem dropAll_induction {P : Lending α → Prop} (h : P l)
    (hdrop : ∀ l handle, P l → P (l.drop handle)) : P l.dropAll :=
  List.foldlRecOn _ _ h fun l hl handle _ => hdrop l handle hl

theorem dropAll_subperm (l : Lending α) : l.dropAll.inUse.Subperm l.inUse :=
  dropAll_induction (List.Subperm.refl _) fun l handle h => (drop_subperm l handle).trans h

@[simp] theorem made_dropAll (l : Lending α) : l.dropAll.made = l.made :=
  dropAll_induction (P := fun after => after.made = l.made) rfl fun l handle h =>
    (made_drop l handle).trans h

/-- A smaller capacity lets go those at the top. -/
theorem idle_configure (l : Lending α) (capacity : Nat) :
    ({ l with pool := l.pool.map (·.configure capacity) } : Lending α).idle <:+ l.idle := by
  simp only [idle]
  cases l.pool with
  | none => exact List.suffix_refl _
  | some pool => exact List.drop_suffix _ _

/-- Everything that obtaining a buffer can come to: there is no pool, or nothing is idle, or the
    buffer on top of the idle stack is taken. -/
theorem obtain_cases (l : Lending α) :
    (l.pool = none ∧ l.obtain = (none, l))
      ∨ (∃ pool, l.pool = some pool ∧ pool.idle = []
        ∧ l.obtain = (some (.ofSerial (l.made + 1)),
          { l with
            handles := l.handles ++ [some (.ofSerial (l.made + 1))], made := l.made + 1 }))
      ∨ ∃ pool b rest, l.pool = some pool ∧ pool.idle = b :: rest
        ∧ l.obtain = (some b.recycle,
          { l with
            pool := some { pool with idle := rest }, handles := l.handles ++ [some b.recycle] }) := by
  -- The cases are those of the definition: no pool, nothing idle, a buffer on top.
  cases hpool : l.pool with
  | none => exact .inl ⟨rfl, by rw [obtain, hpool]⟩
  | some pool =>
      cases hidle : pool.idle with
      | nil =>
          refine .inr (.inl ⟨pool, rfl, hidle, ?_⟩)
          simp only [obtain, hpool, Pool.obtain, hidle]
          rfl
      | cons b rest =>
          refine .inr (.inr ⟨pool, b, rest, rfl, hidle, ?_⟩)
          simp only [obtain, hpool, Pool.obtain, hidle]
          rfl

/-- What is obtained comes from the top of the idle ones, or from nowhere. -/
theorem idle_obtain (l : Lending α) : l.obtain.2.idle <:+ l.idle := by
  rcases l.obtain_cases with ⟨hpool, hobtain⟩ | ⟨pool, hpool, hidle, hobtain⟩
    | ⟨pool, b, rest, hpool, hidle, hobtain⟩
  · rw [hobtain]
  · rw [hobtain]
    exact List.suffix_refl _
  · rw [hobtain]
    simp only [idle, hpool, Option.elim_some, hidle]
    exact List.suffix_cons b rest

theorem bounded_obtain (h : ∀ pool, l.pool = some pool → pool.Bounded) :
    ∀ pool, l.obtain.2.pool = some pool → pool.Bounded := by
  rcases l.obtain_cases with ⟨hpool, hobtain⟩ | ⟨pool, hpool, hidle, hobtain⟩
    | ⟨pool, b, rest, hpool, hidle, hobtain⟩
  · rw [hobtain]
    exact h
  · rw [hobtain]
    exact h
  · rw [hobtain]
    intro after hafter
    cases hafter
    have hbounded := h pool hpool
    simp only [Pool.Bounded, Pool.available, hidle, List.length_cons] at hbounded ⊢
    omega

end

/-- What a move does to the buffers in use, where `made` buffers have been made before. -/
inductive Exchange [Contents α δ] (made : Nat) (before : List (Buffer α)) :
    Nat → List Nat → List (Buffer α) → Prop where
  /-- Some may be let go. -/
  | letGo {after : List (Buffer α)} (kept : after.Subperm before) :
      Exchange made before made [] after
  /-- One has got other data. -/
  | written {after rest : List (Buffer α)} {b : Buffer α} (change : δ)
      (old : before.Perm (b :: rest)) (new : after.Perm (b.write change :: rest)) :
      Exchange made before made [] after
  /-- One was reset and handed out. -/
  | reused {after rest : List (Buffer α)} {b : Buffer α} (old : before.Perm (b :: rest))
      (new : after.Perm (b.recycle :: rest)) : Exchange made before made [b.serial] after
  /-- A new one was handed out. -/
  | fresh {after : List (Buffer α)} (new : after.Perm (.ofSerial (made + 1) :: before)) :
      Exchange made before (made + 1) [made + 1] after

namespace Exchange

variable [Contents α δ] {made made' : Nat} {before after : List (Buffer α)}
  {now handed : List Nat}

theorem made_le (h : Exchange made before made' now after) : made ≤ made' := by
  cases h <;> omega

/-- Whatever a move does to the buffers, their numbers stay in order. -/
theorem booked (h : Exchange made before made' now after)
    (hbefore : Booked made handed before) : Booked made' (handed ++ now) after := by
  cases h with
  | letGo kept =>
      rw [List.append_nil]
      exact hbefore.subperm kept
  | written change old new =>
      rw [List.append_nil]
      -- Other data under the same number, reset as often as before.
      have hreplaced := (hbefore.subperm old.symm.subperm).replace
        (Buffer.serial_write change _) (Buffer.recycled_write change _)
      exact hreplaced.subperm new.subperm
  | reused old new => exact (hbefore.subperm old.symm.subperm).recycle.subperm new.subperm
  | fresh new => exact hbefore.ofSerial.subperm new.subperm

/-- A number in use was in use before, unless it is a new one. -/
theorem serial_mem (h : Exchange made before made' now after) :
    ∀ b ∈ after, b.serial ∈ before.map Buffer.serial ∨ made < b.serial := by
  intro b hb
  cases h with
  | letGo kept => exact .inl (List.mem_map_of_mem (kept.subset hb))
  | written change old new =>
      refine .inl ((old.map _).mem_iff.mpr ?_)
      simpa using List.mem_map_of_mem (f := Buffer.serial) (new.mem_iff.mp hb)
  | reused old new =>
      refine .inl ((old.map _).mem_iff.mpr ?_)
      simpa using List.mem_map_of_mem (f := Buffer.serial) (new.mem_iff.mp hb)
  | fresh new =>
      rcases List.mem_cons.mp (new.mem_iff.mp hb) with rfl | hold
      · exact .inr (Nat.lt_succ_self made)
      · exact .inl (List.mem_map_of_mem hold)

end Exchange

section

variable [Contents α δ] {l : Lending α} {returned handed : List Nat}

/-- What each move does to the buffers in use. -/
theorem step_exchange (l : Lending α) (move : Move δ) :
    Exchange l.made l.inUse (l.step move).2.made (l.handedBy move) (l.step move).2.inUse := by
  cases move with
  | obtain =>
      rcases l.obtain_cases with ⟨hpool, hobtain⟩ | ⟨pool, hpool, hidle, hobtain⟩
        | ⟨pool, b, rest, hpool, hidle, hobtain⟩
      · simp only [step, handedBy, hobtain]
        exact .letGo (List.Subperm.refl _)
      · simp only [step, handedBy, hobtain]
        refine .fresh ?_
        simp [inUse, idle, List.reduceOption_append, List.perm_middle]
      · have hbefore : l.inUse.Perm (b :: (l.handles.reduceOption ++ rest)) := by
          simp [inUse, idle, hpool, hidle, List.perm_middle]
        simp only [step, handedBy, hobtain]
        refine .reused (b := b) hbefore ?_
        simp [inUse, idle, List.reduceOption_append, List.perm_middle]
  | write handle change =>
      simp only [step, write, handedBy]
      cases h : l.held? handle with
      | none => exact .letGo (List.Subperm.refl _)
      | some b =>
          -- The buffer is taken out and put back under its handle with other data.
          refine .written change (inUse_perm h) ?_
          exact (reduceOption_set l.handles handle (lt_of_held h) _).append_right _
  | read handle => exact .letGo (List.Subperm.refl _)
  | drop handle =>
      simp only [step, handedBy, made_drop]
      exact .letGo (drop_subperm l handle)
  | dropAll =>
      simp only [step, handedBy, made_dropAll]
      exact .letGo (dropAll_subperm l)
  | configure capacity =>
      exact .letGo ((idle_configure l capacity).sublist.append_left l.handles.reduceOption).subperm
  | dropPool => exact .letGo ((List.nil_sublist l.idle).append_left l.handles.reduceOption).subperm

/-- A number in use after a run was in use before, unless it is a new one. -/
theorem run_serial_mem (l : Lending α) (moves : List (Move δ)) :
    ∀ b ∈ (l.run moves).inUse, b.serial ∈ l.inUse.map Buffer.serial ∨ l.made < b.serial := by
  induction moves generalizing l with
  | nil => exact fun b hb => .inl (List.mem_map_of_mem hb)
  | cons move moves ih =>
      intro b hb
      have hstep := step_exchange l move
      -- In use after this move, the number was in use before or is new already.
      rcases ih (l.step move).2 b hb with hold | hnew
      · rcases List.mem_map.mp hold with ⟨b', hb', heq⟩
        rw [← heq]
        exact hstep.serial_mem b' hb'
      · exact .inr (Nat.lt_of_le_of_lt hstep.made_le hnew)

/-- A run has led here in which these numbers were returned and handed out. -/
structure Traced (l : Lending α) (returned handed : List Nat) : Prop where
  bounded : ∀ pool, l.pool = some pool → pool.Bounded
  booked : Booked l.made handed l.inUse
  latest : Latest (l.idle.map Buffer.serial) returned.reverse

namespace Traced

theorem ofCapacity (capacity : Nat) : Traced (.ofCapacity capacity : Lending α) [] [] where
  bounded := by
    rintro _ ⟨rfl⟩
    exact Pool.bounded_ofCapacity capacity
  booked := Booked.empty
  latest := Latest.empty []

/-- The number of a held buffer is not among those of the idle ones. -/
theorem serial_not_idle {handle : Nat} {b : Buffer α} (h : Traced l returned handed)
    (hheld : l.held? handle = some b) : b.serial ∉ l.idle.map Buffer.serial := by
  have hbooked := h.booked.subperm (inUse_perm hheld).symm.subperm
  intro hmem
  rcases List.mem_map.mp hmem with ⟨other, hother, heq⟩
  exact hbooked.serial_ne other (idle_subset_inUseBut hother) heq

/-- Dropping a handle returns its buffer, if it holds one. -/
theorem drop (h : Traced l returned handed) (handle : Nat) :
    Traced (l.drop handle) (returned ++ (l.held? handle).toList.map Buffer.serial) handed := by
  cases hheld : l.held? handle with
  | none =>
      rw [drop_of_dead hheld, Option.toList_none, List.map_nil, List.append_nil]
      exact h
  | some b =>
      have hnew := h.serial_not_idle hheld
      refine ⟨?_, ?_, ?_⟩
      · rw [drop_of_held hheld]
        intro pool hpool
        rcases Option.map_eq_some_iff.mp hpool with ⟨earlier, hearlier, rfl⟩
        exact Pool.bounded_restore (h.bounded earlier hearlier) b
      · rw [made_drop]
        exact h.booked.subperm (drop_subperm l handle)
      · simp only [Option.toList_some, List.map_cons, List.map_nil, List.reverse_append,
          List.reverse_singleton, List.singleton_append]
        -- On the stack it is the latest. Let go, it is just missing from it.
        rcases idle_drop hheld with ⟨-, hidle⟩ | ⟨-, hidle⟩
        · rw [hidle]
          exact h.latest.push hnew
        · rw [hidle]
          exact h.latest.skip hnew

/-- The first drops of a whole row leave the later handles alone. -/
theorem dropFirst (h : Traced l returned handed) (count : Nat) :
    Traced ((List.range count).foldl Lending.drop l)
        (returned ++ (l.handles.take count).reduceOption.map Buffer.serial) handed
      ∧ ∀ handle, count ≤ handle →
        ((List.range count).foldl Lending.drop l).held? handle = l.held? handle := by
  -- The induction is on how many handles have been dropped, from the first one on.
  induction count with
  | zero => simpa using h
  | succ count ih =>
      rcases ih with ⟨htraced, hlater⟩
      rw [List.range_succ, List.foldl_concat]
      refine ⟨?_, fun handle hle => ?_⟩
      · -- What is under the next handle is what was there before the row began.
        have hnext := htraced.drop count
        rw [hlater count (Nat.le_refl count), List.append_assoc, ← List.map_append] at hnext
        rw [List.take_add_one, List.reduceOption_append]
        have hlast : l.handles[count]?.toList.reduceOption = (l.held? count).toList := by
          rw [held?]
          rcases l.handles[count]? with _ | _ | b <;> rfl
        rw [hlast]
        exact hnext
      · rw [held?_drop_other (by omega), hlater handle (by omega)]

/-- A move that returns nothing only takes from the top of the idle stack. -/
theorem take (h : Traced l returned handed) {move : Move δ} (hreturned : l.returnedBy move = [])
    (hidle : (l.step move).2.idle <:+ l.idle)
    (hbounded : ∀ pool, (l.step move).2.pool = some pool → pool.Bounded) :
    Traced (l.step move).2 (returned ++ l.returnedBy move) (handed ++ l.handedBy move) where
  bounded := hbounded
  booked := (step_exchange l move).booked h.booked
  latest := by
    rw [hreturned, List.append_nil]
    exact h.latest.suffix (hidle.map Buffer.serial)

/-- What a move preserves. -/
theorem step (h : Traced l returned handed) (move : Move δ) :
    Traced (l.step move).2 (returned ++ l.returnedBy move) (handed ++ l.handedBy move) := by
  cases move with
  | obtain => exact h.take rfl (idle_obtain l) (bounded_obtain h.bounded)
  | write handle change =>
      -- Writing changes what is under the handle, and the pool not at all.
      have hpool : (l.step (.write handle change)).2.pool = l.pool := by
        simp only [Lending.step, write]
        split <;> rfl
      refine h.take rfl ?_ ?_
      · rw [idle, hpool, ← idle]
      · rw [hpool]
        exact h.bounded
  | read handle => exact h.take rfl (List.suffix_refl _) h.bounded
  | drop handle =>
      rw [handedBy, List.append_nil]
      exact h.drop handle
  | dropAll =>
      have hall := (h.dropFirst l.handles.length).1
      rw [List.take_length] at hall
      rw [handedBy, List.append_nil]
      exact hall
  | configure capacity =>
      refine h.take rfl (idle_configure l capacity) ?_
      intro pool hpool
      rcases Option.map_eq_some_iff.mp hpool with ⟨earlier, -, rfl⟩
      exact Pool.bounded_configure capacity earlier
  | dropPool =>
      refine h.take rfl List.nil_suffix ?_
      intro pool hpool
      cases hpool

/-- What a run preserves. -/
theorem run (h : Traced l returned handed) (moves : List (Move δ)) :
    Traced (l.run moves) (returned ++ gather returnedBy l moves)
      (handed ++ gather handedBy l moves) := by
  induction moves generalizing l returned handed with
  | nil =>
      simp only [gather, List.append_nil]
      exact h
  | cons move moves ih =>
      simp only [gather, ← List.append_assoc]
      exact ih (h.step move)

/-- The idle buffer on top is the one returned last, and it is handed out first. -/
theorem obtain_latest {pool : Pool (Buffer α)} (h : Traced l returned handed)
    (hpool : l.pool = some pool) :
    ∃ b, (l.step .obtain).1 = some b
      ∧ (l.step .obtain).2.held? l.handles.length = some b
      ∧ ((∃ a ∈ pool.idle, b = a.recycle ∧ (l.step .obtain).2.made = l.made
            ∧ returned.reverse.find? (· ∈ pool.idle.map Buffer.serial) = some a.serial)
          ∨ (pool.idle = [] ∧ b = .ofSerial (l.made + 1)
            ∧ (l.step .obtain).2.made = l.made + 1)) := by
  have hlatest := h.latest _ (List.suffix_refl _)
  simp only [idle, hpool, Option.elim_some] at hlatest
  simp only [Lending.step]
  rcases l.obtain_cases with ⟨hnone, hobtain⟩ | ⟨same, hsame, hidle, hobtain⟩
    | ⟨same, a, rest, hsame, hidle, hobtain⟩
  · rw [hpool] at hnone
    cases hnone
  · cases hpool.symm.trans hsame
    rw [hobtain]
    refine ⟨_, rfl, ?_, .inr ⟨hidle, rfl, rfl⟩⟩
    simp [held?]
  · cases hpool.symm.trans hsame
    -- The whole stack is one of its own bottoms, and its top is the one found.
    rw [hidle] at hlatest ⊢
    rw [hobtain]
    refine ⟨_, rfl, ?_, .inl ⟨a, List.mem_cons_self, rfl, rfl, hlatest⟩⟩
    simp [held?]

theorem held_inj {handle other : Nat} {b b' : Buffer α} (h : Traced l returned handed)
    (hheld : l.held? handle = some b) (hother : l.held? other = some b')
    (heq : b'.serial = b.serial) : other = handle := by
  by_contra hne
  have hbooked := h.booked.subperm (inUse_perm hheld).symm.subperm
  exact hbooked.serial_ne b' (mem_inUseBut hother hne) heq

theorem idle_inj {position other : Nat} {b b' : Buffer α} (h : Traced l returned handed)
    (hidle : l.idle[position]? = some b) (hother : l.idle[other]? = some b')
    (heq : b'.serial = b.serial) : other = position := by
  have hdistinct : (l.idle.map Buffer.serial).Nodup := by
    refine h.booked.distinct.sublist (List.Sublist.map _ ?_)
    exact List.sublist_append_right _ _
  have hlt : other < (l.idle.map Buffer.serial).length := by
    rw [List.length_map]
    exact (List.getElem?_eq_some_iff.mp hother).1
  refine (List.getElem?_inj hlt hdistinct).mp ?_
  rw [List.getElem?_map, List.getElem?_map, hidle, hother, Option.map_some, Option.map_some, heq]

/-- A number that was given to a buffer is at one place. -/
theorem keeps_unique (h : Traced l returned handed) {serial : Nat} (hmade : serial ≤ l.made) :
    ∃! place, l.Keeps serial place := by
  by_cases hinUse : ∃ b ∈ l.inUse, b.serial = serial
  · rcases hinUse with ⟨b, hb, rfl⟩
    have hnotGone : ¬ l.Keeps b.serial .gone := fun hgone => hgone [] b hb rfl
    rcases mem_inUse.mp hb with ⟨handle, hheld⟩ | hidle
    · -- Under another handle, or idle, there would be a second buffer with this number.
      refine ⟨.held handle, by simp [Keeps, hheld], ?_⟩
      rintro (other | position | _) hplace
      · rcases Option.map_eq_some_iff.mp hplace with ⟨b', hother, heq⟩
        rw [h.held_inj hheld hother heq]
      · rcases Option.map_eq_some_iff.mp hplace with ⟨b', hother, heq⟩
        refine absurd (List.mem_map.mpr ⟨b', ?_, heq⟩) (h.serial_not_idle hheld)
        exact List.mem_of_getElem? hother
      · exact absurd hplace hnotGone
    · -- Among the idle ones, a second place would be a second buffer with this number as well.
      rcases List.mem_iff_getElem?.mp hidle with ⟨position, hposition⟩
      refine ⟨.idle position, by simp [Keeps, hposition], ?_⟩
      rintro (handle | other | _) hplace
      · rcases Option.map_eq_some_iff.mp hplace with ⟨b', hheld, heq⟩
        refine absurd (List.mem_map.mpr ⟨b, hidle, heq.symm⟩) (h.serial_not_idle hheld)
      · rcases Option.map_eq_some_iff.mp hplace with ⟨b', hother, heq⟩
        rw [h.idle_inj hposition hother heq]
      · exact absurd hplace hnotGone
  · -- What is not in use stays so, as a new buffer gets a number that no other has had.
    refine ⟨.gone, fun moves b hb heq => ?_, ?_⟩
    · rcases run_serial_mem l moves b hb with hold | hnew
      · rcases List.mem_map.mp hold with ⟨b', hb', heq'⟩
        exact hinUse ⟨b', hb', heq'.trans heq⟩
      · omega
    · rintro (handle | position | _) hplace
      · rcases Option.map_eq_some_iff.mp hplace with ⟨b, hheld, heq⟩
        exact absurd ⟨b, mem_inUse_of_held hheld, heq⟩ hinUse
      · rcases Option.map_eq_some_iff.mp hplace with ⟨b, hidle, heq⟩
        have hb := mem_inUse.mpr (.inr (List.mem_of_getElem? hidle))
        exact absurd ⟨b, hb, heq⟩ hinUse
      · rfl

end Traced

/-- A buffer under a handle is left alone unless the move does something to that handle. -/
theorem held?_step {handle : Nat} {b : Buffer α} {move : Move δ} (hheld : l.held? handle = some b)
    (huntouched : ¬ move.Touches handle) : (l.step move).2.held? handle = some b := by
  have hlt := lt_of_held hheld
  -- Obtaining adds a handle behind the others, and writing and dropping change one of them.
  cases move with
  | obtain =>
      have hafter (given : Buffer α) : (l.handles ++ [some given])[handle]?.join = some b := by
        rwa [List.getElem?_append_left hlt]
      simp only [step]
      rcases l.obtain_cases with ⟨hpool, hobtain⟩ | ⟨pool, hpool, hidle, hobtain⟩
        | ⟨pool, a, rest, hpool, hidle, hobtain⟩
      · rwa [hobtain]
      · rw [hobtain]
        exact hafter _
      · rw [hobtain]
        exact hafter _
  | write other change =>
      simp only [step, write]
      cases l.held? other with
      | none => exact hheld
      | some written =>
          simp only [held?]
          rwa [List.getElem?_set_ne huntouched]
  | drop other => exact (held?_drop_other huntouched).trans hheld
  | dropAll => exact absurd trivial huntouched
  | read _ | configure _ | dropPool => exact hheld

/-- Buffers are never shared, never kept beyond the capacity, and never handed out as they were
    left. This holds after every run, which has returned and handed out certain buffers, and of
    every move that comes next:

    1. There are no more idle buffers than the capacity allows.
    2. Every buffer made so far is under one handle, or at one place among the idle ones, or
       gone for good.
    3. The pool hands out, under the next handle, the idle buffer that was returned last, reset
       once. If nothing is idle, it makes a new buffer. A buffer has been reset once less often
       than it was handed out.
    4. A buffer that is returned becomes idle if and only if the pool is there and has room.
    5. A buffer under a handle changes only by what is done to that handle. -/
theorem run_lends (capacity : Nat) (moves : List (Move δ)) (next : Move δ) :
    let start : Lending α := .ofCapacity capacity
    let l := start.run moves
    let returned := gather returnedBy start moves
    let handed := gather handedBy start moves
    (∀ pool, l.pool = some pool → pool.available ≤ pool.capacity)
      ∧ (∀ serial, serial ≤ l.made → ∃! place, l.Keeps serial place)
      ∧ (∀ pool, l.pool = some pool →
        ∃ b, (l.step .obtain).1 = some b
          ∧ (l.step .obtain).2.held? l.handles.length = some b
          ∧ ((∃ a ∈ pool.idle, b = a.recycle ∧ (l.step .obtain).2.made = l.made
                ∧ returned.reverse.find? (· ∈ pool.idle.map Buffer.serial) = some a.serial)
              ∨ (pool.idle = [] ∧ b = .ofSerial (l.made + 1)
                ∧ (l.step .obtain).2.made = l.made + 1)))
      ∧ (∀ b ∈ l.inUse, b.recycled + 1 = handed.count b.serial)
      ∧ (∀ handle b, l.held? handle = some b →
        (b ∈ (l.step (.drop handle)).2.idle ↔ l.HasRoom)
          ∧ (l.step (.drop handle)).2.held? handle = none)
      ∧ (∀ handle b, l.held? handle = some b → ¬ next.Touches handle →
        (l.step next).2.held? handle = some b) := by
  intro start l returned handed
  have h : Traced l returned handed := (Traced.ofCapacity capacity).run moves
  refine ⟨h.bounded, fun serial hmade => h.keeps_unique hmade, fun pool hpool =>
    h.obtain_latest hpool, h.booked.counted, fun handle b hheld => ⟨?_, held?_drop_self l handle⟩,
    fun handle b hheld huntouched => held?_step hheld huntouched⟩
  -- A held buffer is not idle, so it is idle afterwards only if the drop has kept it.
  have hnotIdle : b ∉ l.idle := fun hmem => h.serial_not_idle hheld (List.mem_map_of_mem hmem)
  rcases idle_drop hheld with ⟨hroom, hidle⟩ | ⟨hfull, hidle⟩
  · simp only [step, hidle, List.mem_cons_self, hroom]
  · simp only [step, hidle, hnotIdle, hfull]

/-- Two buffers come back to a pool that has room for one by then. The one that was returned
    first is reset and handed out, and the other is gone. -/
theorem run_lends_shrunk :
    let moves : List (Move Bytes) :=
      [.obtain, .obtain, .write 1 [7], .configure 1, .drop 1, .drop 0]
    let l : Lending := (ofCapacity 2).run moves
    (l.step .obtain).1 = some ⟨2, 1, []⟩ ∧ l.Keeps 1 .gone := by
  intro moves l
  rcases run_lends (α := Bytes) 2 moves .obtain with ⟨-, hplace, hobtain, -⟩
  refine ⟨?_, ?_⟩
  · rcases hobtain ⟨1, [⟨2, 0, [7]⟩]⟩ rfl with ⟨b, hb, -, ⟨a, ha, rfl, -⟩ | ⟨hnone, -⟩⟩
    · rw [hb, List.mem_singleton.mp ha]
      rfl
    · cases hnone
  · have hl : l = ⟨some ⟨1, [⟨2, 0, [7]⟩]⟩, [none, none], 2⟩ := rfl
    rcases hplace 1 (by decide) with ⟨place, hkept, -⟩
    change l.Keeps 1 place at hkept
    -- There are two handles and one idle buffer, and the number is at none of these places.
    cases place with
    | held handle =>
        rw [hl] at hkept
        rcases handle with _ | _ | _ <;> cases hkept
    | idle position =>
        rw [hl] at hkept
        rcases position with _ | _ <;> cases hkept
    | gone => exact hkept

end

end Lending

end Recode
