import Recode.Json.Skip
import Recode.Proofs.Json.Scalars

/-!
# Skipping values

Every value of JSON is passed over by the skipper, at any depth and in any containers.
The proof is an induction on the value. What carries it is a statement about the
skipper in the middle of its work: wherever a value is due, the tokens of a value
bring it to the state behind that value, and the stack is then what it was before.

Lists and objects share the argument. Their items differ, a value here and a name, a
colon and a value there, but in both the skipper goes from the start of an item to the
separator behind it, and a comma takes it back to the start of the next.

## Main definitions

* `Skipped.Leads`: Where the skipper gets to from a state.
* `IsSkipped`: Tokens that are a value to the skipper.
* `AreItems`: Tokens that are items of a container, with commas between them.

## Theorems

* `skipFrom_cons`: One step of the skipper.
* `Separated.areItems`, `Enclosed.isSkipped`: Items, and the containers around them.
* `IsValue.isSkipped`: Every value is passed over.
* `skip_takes`: The skipper takes every value off the front.
-/

namespace Recode

namespace Json

/-- Where the skipper gets to from a state: the tokens behind the value. -/
def Skipped.Leads : Skipped → List Token → List Token → Prop
  | .done, rest, behind => rest = behind
  | .going due stack, rest, behind => Yields (skipFrom due stack) rest () behind

/-- The skipper takes one token and goes on from the state it is in then. -/
theorem skipFrom_cons {due : Due} {stack : List Container} {token : Token} {next : Skipped}
    {rest behind : List Token} (htoken : skipToken due stack token = .ok next)
    (hnext : next.Leads rest behind) :
    Yields (skipFrom due stack) (token :: rest) () behind := by
  cases next with
  | done =>
      obtain rfl : rest = behind := hnext
      exact ⟨Nat.lt_succ_self _, by rw [skipFrom, htoken]; rfl⟩
  | going due' stack' =>
      obtain ⟨hshorter, heq⟩ : Yields (skipFrom due' stack') rest () behind := hnext
      refine ⟨Nat.lt_succ_of_lt hshorter, ?_⟩
      simp only [skipFrom, htoken, heq]
      rfl

/-- The tokens are a value to the skipper, in any containers. -/
def IsSkipped (tokens : List Token) : Prop :=
  ∀ mayClose stack rest behind, (Skipped.behindValue stack).Leads rest behind →
    Yields (skipFrom (.value mayClose) stack) (tokens ++ rest) () behind

/-- A token that is a value by itself is passed over. -/
theorem isSkipped_of_scalar {token : Token} (h : token.scalarFailure? = none) :
    IsSkipped [token] := by
  intro mayClose stack rest behind hbehind
  refine skipFrom_cons ?_ hbehind
  -- Only brackets and braces have a meaning of their own where a value is due.
  cases token with
  | openBrace | openBracket | closeBracket =>
      exact absurd h (by simp only [Token.scalarFailure?, reduceCtorEq, not_false_eq_true])
  | _ => simp only [skipToken, h]

namespace Container

/-- The token that opens a container. -/
def opening : Container → Token
  | list => .openBracket
  | object => .openBrace

/-- The character that opens a container. -/
def openingChar : Container → Char
  | list => '['
  | object => '{'

/-- The character that closes a container. -/
def closingChar : Container → Char
  | list => ']'
  | object => '}'

/-- What is due where an item of a container may begin. -/
def start (mayClose : Bool) : Container → Due
  | list => .value mayClose
  | object => .key mayClose

/-- After a comma another item is due, and the container may not end there. -/
theorem afterComma_eq (container : Container) : container.afterComma = container.start false := by
  cases container <;> rfl

end Container

/-- The tokens are items of a container, with commas between them. -/
def AreItems (container : Container) (tokens : List Token) : Prop :=
  ∀ mayClose outer rest behind,
    Yields (skipFrom .separator (container :: outer)) rest () behind →
      Yields (skipFrom (container.start mayClose) (container :: outer)) (tokens ++ rest) () behind

/-- Items and more items with a comma in between are items. -/
theorem AreItems.append {container : Container} {tokens more : List Token}
    (hfirst : AreItems container tokens) (hmore : AreItems container more) :
    AreItems container (tokens ++ .comma :: more) := by
  intro mayClose outer rest behind hbehind
  have hcomma : skipToken .separator (container :: outer) .comma
      = .ok (.going (container.start false) (container :: outer)) := by
    rw [← container.afterComma_eq]
    rfl
  -- The first items leave the skipper at a separator, and the comma is one.
  rw [List.append_assoc, List.cons_append]
  exact hfirst mayClose outer _ behind
    (skipFrom_cons hcomma (hmore false outer rest behind hbehind))

variable {α : Type}

theorem Separated.areItems {IsItem : α → List Char → Prop} {as : List α} {text : List Char}
    (container : Container) (h : Separated IsItem as text)
    (hitems : ∀ a ∈ as, ∀ item, IsItem a item →
      ∃ tokens, Scans item tokens ∧ AreItems container tokens) :
    ∃ tokens, Scans text tokens ∧ AreItems container tokens := by
  induction h with
  | one hitem => exact hitems _ (List.mem_cons_self ..) _ hitem
  | cons hitem _ ih =>
      obtain ⟨tokens, hscan, hskip⟩ := hitems _ (List.mem_cons_self ..) _ hitem
      obtain ⟨more, hscan', hskip'⟩ := ih fun a ha => hitems a (List.mem_cons_of_mem _ ha)
      exact ⟨_, hscan.append_cons hscan' (by decide) scan_comma, hskip.append hskip'⟩

/-- A container is passed over if its items are. -/
theorem Enclosed.isSkipped {IsItem : α → List Char → Prop} {as : List α} {text : List Char}
    (container : Container)
    (h : Enclosed container.openingChar container.closingChar IsItem as text)
    (hitems : ∀ a ∈ as, ∀ item, IsItem a item →
      ∃ tokens, Scans item tokens ∧ AreItems container tokens) :
    ∃ tokens, Scans text tokens ∧ IsSkipped tokens := by
  -- What the scanner and the skipper make of the two brackets, and of the two braces.
  have hnumber : Delimits container.closingChar := by
    cases container <;> decide
  have hopening : ∀ rest,
      scan (container.openingChar :: rest) = container.opening :: scan rest := by
    cases container
    · exact scan_openBracket
    · exact scan_openBrace
  have hclosing : ∀ rest,
      scan (container.closingChar :: rest) = container.closing :: scan rest := by
    cases container
    · exact scan_closeBracket
    · exact scan_closeBrace
  have hopen : ∀ mayClose stack, skipToken (.value mayClose) stack container.opening
      = .ok (.going (container.start true) (container :: stack)) := by
    intro mayClose stack
    cases container <;> rfl
  cases h with
  | @empty inside hblanks =>
      have hscan : Scans inside [] := fun rest _ => scan_blanks hblanks rest
      refine ⟨_, hscan.enclosed hnumber hopening hclosing, ?_⟩
      intro mayClose stack rest behind hbehind
      -- A container without items may close at once.
      refine skipFrom_cons (hopen mayClose stack) (skipFrom_cons ?_ hbehind)
      cases container <;> rfl
  | @items _ inside hseparated =>
      obtain ⟨tokens, hscan, hskip⟩ := hseparated.areItems container hitems
      refine ⟨_, hscan.enclosed hnumber hopening hclosing, ?_⟩
      intro mayClose stack rest behind hbehind
      rw [List.cons_append, List.append_assoc, List.singleton_append]
      refine skipFrom_cons (hopen mayClose stack)
        (hskip true stack _ behind (skipFrom_cons ?_ hbehind))
      cases container <;> rfl

/-- A member is scanned as its name, a colon and its value. -/
theorem IsMember.scans {IsKey : α → List Char → Prop} {member : α × List Char}
    {text : List Char} {tokens : List Token} {P : StringBody → Prop}
    (h : IsMember IsKey member text)
    (hkey : ∀ key, IsKey member.1 key → ∃ body, Scans key [.text body] ∧ P body)
    (hvalue : Scans member.2 tokens) :
    ∃ body, P body ∧ Scans text (.text body :: .colon :: tokens) := by
  obtain ⟨key, paddedKey, paddedValue, hname, hpadded, hpadded', rfl⟩ := h
  obtain ⟨body, hscan, hbody⟩ := hkey key hname
  exact ⟨body, hbody, (hscan.padded hpadded).append_cons (hvalue.padded hpadded') (by decide)
    scan_colon⟩

/-- Every value of JSON is passed over, however deep its containers nest. -/
theorem IsValue.isSkipped {text : List Char} (h : IsValue text) :
    ∃ tokens, Scans text tokens ∧ IsSkipped tokens := by
  induction h with
  | word w => exact ⟨_, w.scans, isSkipped_of_scalar rfl⟩
  | number hnumber => exact ⟨_, hnumber.scans, isSkipped_of_scalar rfl⟩
  | string hstring => exact ⟨_, hstring.scans, isSkipped_of_scalar rfl⟩
  | list _ htext ih =>
      refine htext.isSkipped .list fun v hv item hitem => ?_
      obtain ⟨tokens, hscan, hskip⟩ := ih v hv
      exact ⟨tokens, hscan.padded hitem, fun mayClose outer => hskip mayClose (.list :: outer)⟩
  | object _ htext ih =>
      refine htext.isSkipped .object fun m hm item hitem => ?_
      obtain ⟨tokens, hscan, hskip⟩ := ih m hm
      obtain ⟨body, hclosed, hscan'⟩ := hitem.scans (P := fun body => body.ending = .closed)
        (fun key hkey => ⟨_, hkey.scans, rfl⟩) hscan
      refine ⟨_, hscan', fun mayClose outer rest behind hbehind => ?_⟩
      -- The key of a member only has to be well formed, and its colon has to follow.
      have hkey : skipToken (.key mayClose) (.object :: outer) (.text body)
          = .ok (.going .colon (.object :: outer)) := by
        simp only [skipToken, StringBody.check, hclosed, StringEnd.failure?]
      have hcolon : skipToken .colon (.object :: outer) .colon
          = .ok (.going (.value false) (.object :: outer)) := rfl
      exact skipFrom_cons hkey (skipFrom_cons hcolon (hskip false _ rest behind hbehind))

theorem skip_takes {text : List Char} (h : IsValue text) : skip.Takes text () := by
  obtain ⟨tokens, hscan, hskip⟩ := h.isSkipped
  exact ⟨tokens, hscan, fun rest => hskip false [] rest rest rfl⟩

end Json

end Recode
