import Recode.Json.Scan
import Recode.Proofs.Json.Grammar

/-!
# Scanning JSON text

What the scanner makes of text that follows the grammar. A piece of text is cut into
its own tokens whatever follows it, with one exception: a number ends where no more
of it comes, so what follows must not go on with it. `Scans` is stated with that
proviso. It holds for every piece of text, whether there is a number at its end or
not, so the pieces can be put together without asking which they are. Everything that
may follow a value in a text, a blank, a comma, a bracket or the end, keeps to it.

## Main definitions

* `Delimits`, `EndsNumber`: The characters that do not go on with a number.
* `Scans`: A piece of text is cut into the given tokens.

## Theorems

* `Scans.append_cons`, `Scans.enclosed`, `Scans.padded`: Pieces of text put together.
* `StringBody.take_contents`: A string ends at its closing quote.
* `takeNumber_append`: A number is taken as a whole.
* `IsString.scans`, `IsNumber.scans`, `Word.scans`: Every scalar is one token.
-/

namespace Recode

namespace Json

/-- The character does not go on with a number. -/
def Delimits (c : Char) : Prop := c.isDigit = false ∧ c ∉ ['.', 'e', 'E']

instance (c : Char) : Decidable (Delimits c) :=
  inferInstanceAs (Decidable (c.isDigit = false ∧ c ∉ ['.', 'e', 'E']))

/-- No number goes on into the text. -/
def EndsNumber (rest : List Char) : Prop := ∀ c, rest.head? = some c → Delimits c

/-- The text is cut into these tokens, whatever follows that does not go on with its
    last number. -/
def Scans (text : List Char) (tokens : List Token) : Prop :=
  ∀ rest, EndsNumber rest → scan (text ++ rest) = tokens ++ scan rest

/-! ## Blanks and punctuation -/

theorem isBlank_of_mem {c : Char} (h : c ∈ [' ', '\t', '\n', '\r']) :
    isBlank c = true ∧ Delimits c := by
  simp only [List.mem_cons, List.not_mem_nil, or_false] at h
  rcases h with rfl | rfl | rfl | rfl <;> decide

theorem scan_blanks {cs : List Char} (h : Blanks cs) (rest : List Char) :
    scan (cs ++ rest) = scan rest := by
  induction cs with
  | nil => rfl
  | cons c cs ih =>
      have hc : isBlank c = true := (isBlank_of_mem (h c (List.mem_cons_self ..))).1
      rw [List.cons_append, scan, if_pos hc]
      exact ih fun d hd => h d (List.mem_cons_of_mem c hd)

theorem scan_of_takeToken {c : Char} {cs rest : List Char} {token : Token}
    (hblank : isBlank c = false) (htoken : takeToken c cs = (token, rest)) :
    scan (c :: cs) = token :: scan rest := by
  rw [scan, hblank, htoken]
  rfl

@[simp] theorem scan_openBrace (rest : List Char) : scan ('{' :: rest) = .openBrace :: scan rest :=
  scan_of_takeToken rfl rfl

@[simp] theorem scan_closeBrace (rest : List Char) :
    scan ('}' :: rest) = .closeBrace :: scan rest :=
  scan_of_takeToken rfl rfl

@[simp] theorem scan_openBracket (rest : List Char) :
    scan ('[' :: rest) = .openBracket :: scan rest :=
  scan_of_takeToken rfl rfl

@[simp] theorem scan_closeBracket (rest : List Char) :
    scan (']' :: rest) = .closeBracket :: scan rest :=
  scan_of_takeToken rfl rfl

@[simp] theorem scan_comma (rest : List Char) : scan (',' :: rest) = .comma :: scan rest :=
  scan_of_takeToken rfl rfl

@[simp] theorem scan_colon (rest : List Char) : scan (':' :: rest) = .colon :: scan rest :=
  scan_of_takeToken rfl rfl

theorem EndsNumber.nil : EndsNumber [] := by
  intro c hc
  exact absurd hc (by simp only [List.head?_nil, reduceCtorEq, not_false_eq_true])

/-- Whether a number ends is a matter of the first character. -/
theorem EndsNumber.cons {c : Char} {rest : List Char} (h : Delimits c) :
    EndsNumber (c :: rest) := by
  intro d hd
  rw [List.head?_cons, Option.some.injEq] at hd
  rwa [← hd]

/-- Blanks end a number, and where there are none it depends on what comes after them. -/
theorem Blanks.endsNumber {cs rest : List Char} (hblanks : Blanks cs) (hrest : EndsNumber rest) :
    EndsNumber (cs ++ rest) := by
  rcases cs with _ | ⟨c, cs⟩
  · exact hrest
  · exact EndsNumber.cons (isBlank_of_mem (hblanks c (List.mem_cons_self ..))).2

/-- The tokens of a text are the same with blanks around it. -/
theorem Scans.padded {item text : List Char} {tokens : List Token} (h : Scans item tokens)
    (hpadded : Padded item text) : Scans text tokens := by
  obtain ⟨before, after, hbefore, hafter, rfl⟩ := hpadded
  intro rest hrest
  rw [List.append_assoc, List.append_assoc, scan_blanks hbefore,
    h (after ++ rest) (hafter.endsNumber hrest), scan_blanks hafter]

/-- Two texts with a character between them that ends a number and is a token. -/
theorem Scans.append_cons {left right : List Char} {tokens more : List Token} {c : Char}
    {token : Token} (hleft : Scans left tokens) (hright : Scans right more)
    (hc : Delimits c)
    (htoken : ∀ rest, scan (c :: rest) = token :: scan rest) :
    Scans (left ++ c :: right) (tokens ++ token :: more) := by
  intro rest hrest
  rw [List.append_assoc, List.cons_append, hleft _ (EndsNumber.cons hc), htoken, hright rest hrest,
    List.append_assoc, List.cons_append]

/-- A text between two characters that are tokens, of which the second ends a number. -/
theorem Scans.enclosed {inside : List Char} {tokens : List Token} {opening closing : Char}
    {openToken closeToken : Token} (h : Scans inside tokens)
    (hclosing : Delimits closing)
    (hopen : ∀ rest, scan (opening :: rest) = openToken :: scan rest)
    (hclose : ∀ rest, scan (closing :: rest) = closeToken :: scan rest) :
    Scans (opening :: (inside ++ [closing])) (openToken :: (tokens ++ [closeToken])) := by
  intro rest _
  rw [List.cons_append, hopen, List.append_assoc, List.singleton_append,
    h _ (EndsNumber.cons hclosing), hclose]
  simp only [List.cons_append, List.append_assoc, List.nil_append]

/-! ## Strings -/

theorem hexDigit?_of_mem {d : Char × Nat} (h : d ∈ hexDigits) : hexDigit? d.1 = some d.2 := by
  have hall : ∀ d ∈ hexDigits, hexDigit? d.1 = some d.2 := by decide
  exact hall d h

theorem hexUnit?_of_mem {a b c d : Char × Nat} (ha : a ∈ hexDigits) (hb : b ∈ hexDigits)
    (hc : c ∈ hexDigits) (hd : d ∈ hexDigits) :
    hexUnit? a.1 b.1 c.1 d.1 = some (fourDigits a.2 b.2 c.2 d.2) := by
  rw [hexUnit?, hexDigit?_of_mem ha, hexDigit?_of_mem hb, hexDigit?_of_mem hc,
    hexDigit?_of_mem hd]
  rfl

/-- A character that needs no escape is taken as it is. -/
theorem StringBody.take_plain {c : Char} (hquote : c ≠ '"') (hbackslash : c ≠ '\\')
    (hspace : ¬ c < ' ') (cs : List Char) :
    StringBody.take (c :: cs) = StringBody.push (.char c) (StringBody.take cs) := by
  rw [StringBody.take, if_neg hspace]
  -- The other patterns begin with a quote or a backslash.
  · exact hquote
  · exact fun _ _ _ _ _ h => absurd h hbackslash
  · exact fun _ h => absurd h hbackslash
  · exact fun h => absurd h hbackslash
  · exact fun _ _ h => absurd h hbackslash

/-- An escape by a letter is taken as the character that it stands for. -/
theorem StringBody.take_letter {letter c : Char} (h : (letter, c) ∈ escapes) (cs : List Char) :
    StringBody.take ('\\' :: letter :: cs) = StringBody.push (.char c) (StringBody.take cs) := by
  have hall : ∀ e ∈ escapes, escaped? e.1 = some e.2 ∧ e.1 ≠ 'u' := by decide
  obtain ⟨hescaped, hu⟩ := hall _ h
  rw [StringBody.take, hescaped]
  · exact fun _ _ _ _ _ hletter => absurd hletter hu
  · exact hu

/-- Contents of the grammar are taken up to the closing quote, and into their fragments. -/
theorem StringBody.take_contents {fragments : List Fragment} {contents : List Char}
    (h : IsContents fragments contents) (rest : List Char) :
    StringBody.take (contents ++ '"' :: rest) = (⟨fragments, .closed⟩, rest) := by
  -- Each way of writing a character is one pattern of the scanner.
  induction h with
  | nil => rfl
  | plain hquote hbackslash hspace _ ih =>
      rw [List.cons_append, StringBody.take_plain hquote hbackslash hspace, ih]
      rfl
  | letter hletter _ ih =>
      rw [List.cons_append, List.cons_append, StringBody.take_letter hletter, ih]
      rfl
  | unit ha hb hc hd _ ih =>
      simp only [List.cons_append, StringBody.take, hexUnit?_of_mem ha hb hc hd, ih]
      rfl

theorem IsString.scans {fragments : List Fragment} {text : List Char}
    (h : IsString fragments text) : Scans text [.text ⟨fragments, .closed⟩] := by
  obtain ⟨contents, hcontents, rfl⟩ := h
  intro rest _
  have htake := StringBody.take_contents hcontents rest
  rw [List.cons_append, List.append_assoc, List.singleton_append]
  refine scan_of_takeToken rfl ?_
  simp only [takeToken, htake]

/-! ## Numbers and words -/

/-- The text does not begin with a digit. -/
def NoDigit (rest : List Char) : Prop := ∀ c, rest.head? = some c → c.isDigit = false

/-- A row of digits is taken up to where it ends. -/
theorem takeDigits_append {digits rest : List Char} (hdigits : IsDigits digits)
    (hrest : NoDigit rest) : takeDigits (digits ++ rest) = .ok (digits, rest) := by
  -- The row of digits ends where the given one does.
  have hnone : rest.takeWhile Char.isDigit = [] ∧ rest.dropWhile Char.isDigit = rest := by
    rcases rest with _ | ⟨c, rest⟩
    · exact ⟨rfl, rfl⟩
    · have hc : c.isDigit = false := hrest c rfl
      simp only [List.takeWhile_cons, List.dropWhile_cons, hc, Bool.false_eq_true, if_false,
        and_self]
  have hsome : digits.isEmpty = false := List.isEmpty_eq_false_iff.mpr hdigits.1
  rw [takeDigits, List.takeWhile_append_of_pos hdigits.2, List.dropWhile_append_of_pos hdigits.2,
    hnone.1, hnone.2, List.append_nil, hsome]
  rfl

/-- So is a row of digits without a zero in front, and a zero alone. -/
theorem takeWhole_append {digits rest : List Char} (hdigits : IsWhole digits)
    (hrest : NoDigit rest) : takeWhole (digits ++ rest) = .ok (digits, rest) := by
  rcases hdigits with rfl | ⟨hdigits, hzero⟩
  · -- A zero stands alone: no digit may follow it.
    have hnone : rest.head?.any Char.isDigit = false := by
      rcases rest with _ | ⟨c, rest⟩
      · rfl
      · exact hrest c rfl
    simp only [List.singleton_append, takeWhole, hnone, Bool.false_eq_true, if_false]
  · rcases digits with _ | ⟨d, digits⟩
    · exact absurd rfl hdigits.1
    · have hd : d ≠ '0' := fun h => hzero (by rw [h]; rfl)
      rw [List.cons_append, takeWhole, ← List.cons_append]
      · exact takeDigits_append hdigits hrest
      · exact fun _ h => hd (List.cons.inj h).1

/-- An exponent, or what follows where there is none, begins with neither a digit nor a point. -/
theorem IsExponent.noDigit {e : Option (Bool × List Char)} {exponent rest : List Char}
    (h : IsExponent e exponent) (hrest : EndsNumber rest) :
    NoDigit (exponent ++ rest) ∧ ∀ more, exponent ++ rest ≠ '.' :: more := by
  cases h with
  | none =>
      -- Without an exponent it is up to what follows.
      refine ⟨fun c hc => (hrest c hc).1, ?_⟩
      rintro more hmore
      rw [List.nil_append] at hmore
      exact absurd (hrest '.' (by rw [hmore]; rfl)).2 (by decide)
  | some hletter _ _ =>
      have hall : ∀ c : Char, c = 'e' ∨ c = 'E' → c.isDigit = false ∧ c ≠ '.' := by
        rintro c (rfl | rfl) <;> decide
      obtain ⟨hdigit, hpoint⟩ := hall _ hletter
      refine ⟨fun c hc => ?_, fun more hmore => hpoint (List.cons.inj hmore).1⟩
      rw [← Option.some.inj hc]
      exact hdigit

/-- Nor does a fraction begin with a digit, or what follows where there is none. -/
theorem IsFraction.noDigit {f : Option (List Char)} {fraction rest : List Char}
    (h : IsFraction f fraction) (hrest : NoDigit rest) : NoDigit (fraction ++ rest) := by
  cases h with
  | none => exact hrest
  | some _ =>
      intro c hc
      rw [← Option.some.inj hc]
      rfl

/-- A fraction is taken, or nothing is where there is no point. -/
theorem takeFraction_append {f : Option (List Char)} {fraction rest : List Char}
    (h : IsFraction f fraction) (hrest : NoDigit rest) (hpoint : ∀ more, rest ≠ '.' :: more) :
    takeFraction (fraction ++ rest) = .ok (f, rest) := by
  cases h with
  | none =>
      rw [List.nil_append, takeFraction]
      exact hpoint
  | some hdigits =>
      rw [List.cons_append, takeFraction, takeDigits_append hdigits hrest]
      rfl

/-- The sign of an exponent is taken, if there is one. -/
theorem exponentSign_append {sign digits rest : List Char} {negative : Bool}
    (hsign : (sign, negative) ∈ [([], false), (['+'], false), (['-'], true)])
    (hdigits : IsDigits digits) :
    exponentSign (sign ++ (digits ++ rest)) = (negative, digits ++ rest) := by
  simp only [List.mem_cons, Prod.mk.injEq, List.not_mem_nil, or_false] at hsign
  rcases hsign with ⟨rfl, rfl⟩ | ⟨rfl, rfl⟩ | ⟨rfl, rfl⟩
  · -- Without a sign the first digit stands in its place, and is neither.
    rcases digits with _ | ⟨d, digits⟩
    · exact absurd rfl hdigits.1
    · have hd : d.isDigit = true := hdigits.2 d (List.mem_cons_self ..)
      have hsigns : d ≠ '+' ∧ d ≠ '-' := by
        constructor <;> rintro rfl <;> exact absurd hd (by decide)
      rw [List.nil_append, List.cons_append, exponentSign]
      · exact fun _ h => hsigns.1 (List.cons.inj h).1
      · exact fun _ h => hsigns.2 (List.cons.inj h).1
  · rfl
  · rfl

/-- An exponent is taken, or nothing is where there is no letter for it. -/
theorem takeExponent_append {e : Option (Bool × List Char)} {exponent rest : List Char}
    (h : IsExponent e exponent) (hrest : EndsNumber rest) :
    takeExponent (exponent ++ rest) = .ok (e, rest) := by
  cases h with
  | none =>
      rcases rest with _ | ⟨c, rest⟩
      · rfl
      · -- What follows does not go on with a number, so it does not begin with the letter.
        have hc := (hrest c rfl).2
        simp only [List.mem_cons, List.not_mem_nil, or_false, not_or] at hc
        rw [List.nil_append, takeExponent, if_neg (not_or.mpr hc.2)]
  | some hletter hsign hdigits =>
      rw [List.cons_append, List.append_assoc, takeExponent, if_pos hletter,
        exponentSign_append hsign hdigits,
        takeDigits_append hdigits fun c hc => (hrest c hc).1]
      rfl

/-- A number is taken part by part. What follows each part does not go on with it. -/
theorem takeNumber_append {n : Numeral} {fraction exponent rest : List Char}
    (hwhole : IsWhole n.whole) (hfraction : IsFraction n.fraction fraction)
    (hexponent : IsExponent n.exponent exponent) (hrest : EndsNumber rest) :
    takeNumber n.negative (n.whole ++ (fraction ++ (exponent ++ rest))) = (.number n, rest) := by
  obtain ⟨hdigit, hpoint⟩ := hexponent.noDigit hrest
  rw [takeNumber, takeNumeral, takeWhole_append hwhole (hfraction.noDigit hdigit)]
  simp only [bind, Except.bind, pure, Except.pure, takeFraction_append hfraction hdigit hpoint,
    takeExponent_append hexponent hrest]

theorem IsWhole.exists_cons {digits : List Char} (h : IsWhole digits) :
    ∃ d more, digits = d :: more ∧ d.isDigit = true := by
  rcases h with rfl | ⟨⟨hne, hall⟩, -⟩
  · exact ⟨'0', [], rfl, rfl⟩
  · obtain ⟨d, more, rfl⟩ := List.exists_cons_of_ne_nil hne
    exact ⟨d, more, rfl, hall d (List.mem_cons_self ..)⟩

/-- A digit begins a number and nothing else. -/
theorem takeToken_of_isDigit {d : Char} (h : d.isDigit = true) (rest : List Char) :
    takeToken d rest = takeNumber false (d :: rest) := by
  unfold takeToken
  -- Of all characters that begin something else none is a digit.
  split
  all_goals first
    | exact absurd h (by decide)
    | exact if_pos h

theorem isBlank_of_isDigit {d : Char} (h : d.isDigit = true) : isBlank d = false := by
  have hother : ∀ c, isBlank c = true → c.isDigit = false := by
    intro c hc
    simp only [isBlank, Bool.or_eq_true, beq_iff_eq] at hc
    rcases hc with ((rfl | rfl) | rfl) | rfl <;> rfl
  cases hblank : isBlank d with
  | false => rfl
  | true => exact absurd h (by simp only [hother d hblank, Bool.false_eq_true, not_false_eq_true])

/-- A number is one token. -/
theorem IsNumber.scans {n : Numeral} {text : List Char} (h : IsNumber n text) :
    Scans text [.number n] := by
  obtain ⟨hwhole, hfraction, hexponent⟩ := h
  intro rest hrest
  have htake := takeNumber_append hwhole hfraction hexponent hrest
  -- A number begins with its sign or with the first of its digits.
  cases hsign : n.negative with
  | true =>
      rw [hsign] at htake
      simp only [if_true, List.cons_append, List.nil_append, List.append_assoc]
      exact scan_of_takeToken rfl htake
  | false =>
      obtain ⟨d, more, hdigits, hd⟩ := hwhole.exists_cons
      rw [hsign, hdigits] at htake
      rw [hdigits]
      simp only [Bool.false_eq_true, if_false, List.cons_append, List.nil_append,
        List.append_assoc]
      refine scan_of_takeToken (isBlank_of_isDigit hd) ?_
      rw [takeToken_of_isDigit hd]
      exact htake

theorem Word.scans (w : Word) : Scans w.letters [.word w] := by
  intro rest _
  cases w <;> exact scan_of_takeToken rfl rfl

end Json

end Recode
