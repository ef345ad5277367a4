import SchemaExplorer.Proofs.Json.Number
import SchemaExplorer.Proofs.Sdl.Name

/-! # The tokens of a query document

What a document is made of: marks, names, numbers and strings on one line, with blanks, line ends
and commas between them as far as they are needed. There are no comments. The rules do not say how
to read; that there is only one way to read a text is proved. -/

namespace SchemaExplorer.Query

open Sdl (isName isNameStart isNameChar)

/-! ### Characters -/

/-- Between tokens these do not matter. -/
def isIgnored (c : Char) : Bool :=
  c == ' ' || c == '\t' || c == '\n' || c == '\r' || c == ','

def isMark (c : Char) : Bool :=
  c == '\x7b' || c == '\x7d' || c == '(' || c == ')' || c == '[' || c == ']' || c == ':'

def isHexDigit (c : Char) : Bool :=
  (Text.hexDigit? c).isSome

/-- What may stand behind a backslash: a letter or a mark for one character, or `u` and four
digits. -/
def isEscape (e : Char) (behind : List Char) : Bool :=
  if e = 'u' then 4 ≤ (behind.takeWhile isHexDigit).length else (Json.escape? e).isSome

/-- What may stand between the quotes of a string. -/
def isStringBody : List Char → Bool
  | [] => true
  | '\\' :: e :: cs => isEscape e cs && isStringBody cs
  | c :: cs => c != '"' && c != '\\' && c != '\n' && c != '\r' && isStringBody cs

/-! ### Tokens -/

/-- The text of a string is what stands between its quotes, escapes and all. -/
inductive Token where
  | mark (c : Char)
  | name (text : String)
  | number (text : String)
  | string (body : String)
deriving DecidableEq, Repr

namespace Token

def text : Token → List Char
  | mark c => [c]
  | name text => text.toList
  | number text => text.toList
  | string body => '"' :: (body.toList ++ ['"'])

def isWellFormed : Token → Bool
  | mark c => isMark c
  | name text => isName text.toList
  | number text => Json.numberAt? text.toList == some (text, [])
  | string body => isStringBody body.toList

/-- The token may stand in front of this character, or at the end of the text. A name does not end
within a longer one, nor a number in front of more of it or of a name; three quotes are no empty
string. -/
def endsBefore (next : Option Char) : Token → Bool
  | mark _ => true
  | name _ => next.all (!isNameChar ·)
  | number _ => next.all fun c => !isNameChar c && c != '.'
  | string body => body != "" || next != some '"'

end Token

/-- The text consists of the tokens. -/
inductive Lexes : List Char → List Token → Prop
  | nil : Lexes [] []
  | ignored {c cs ts} : isIgnored c = true → Lexes cs ts → Lexes (c :: cs) ts
  | token {t rest ts} : t.isWellFormed = true → t.endsBefore rest.head? = true → Lexes rest ts →
      Lexes (t.text ++ rest) (t :: ts)

/-! ### Texts one behind the other -/

/-- A character at which every token ends. -/
def isDelimiter (c : Char) : Bool :=
  isIgnored c || isMark c

theorem isNameChar_of_isDelimiter {c : Char} (h : isDelimiter c = true) :
    isNameChar c = false ∧ c ≠ '.' ∧ c ≠ '-' ∧ c ≠ '"' := by
  simp only [isDelimiter, isIgnored, isMark, Bool.or_eq_true, beq_iff_eq] at h
  rcases h with ((((rfl | rfl) | rfl) | rfl) | rfl) | (((((rfl | rfl) | rfl) | rfl) | rfl) |
    rfl) | rfl
  all_goals decide

theorem isDelimiter_eq_false {c : Char} (h : isNameChar c = true ∨ c = '-') :
    isDelimiter c = false := by
  by_contra hc
  obtain ⟨hname, -, hminus, -⟩ := isNameChar_of_isDelimiter (by simpa using hc)
  rcases h with h | h
  · simp [hname] at h
  · exact hminus h

theorem Token.endsBefore_of_isDelimiter {c : Char} (h : isDelimiter c = true) (t : Token) :
    t.endsBefore (some c) = true := by
  cases t <;> simp [endsBefore, isNameChar_of_isDelimiter h]

/-- The tokens of two texts are those of both, if the second begins with a delimiter. -/
theorem Lexes.append {cs ds : List Char} {ts us : List Token} (h : Lexes cs ts) (h' : Lexes ds us)
    (hds : ds.head?.all isDelimiter = true) : Lexes (cs ++ ds) (ts ++ us) := by
  induction h with
  | nil => exact h'
  | ignored hc _ ih => exact .ignored hc ih
  | @token t rest ts ht hend _ ih =>
    rw [List.append_assoc, List.cons_append]
    refine .token ht ?_ ih
    cases rest with
    | cons c rest => exact hend
    | nil =>
      cases ds with
      | nil => exact hend
      | cons d ds => exact t.endsBefore_of_isDelimiter hds

theorem Lexes.single {t : Token} (h : t.isWellFormed = true) : Lexes t.text [t] := by
  have hend : t.endsBefore none = true := by cases t <;> simp [Token.endsBefore]
  have htoken : Lexes (t.text ++ []) [t] := .token h hend .nil
  rwa [List.append_nil] at htoken

theorem Lexes.mark {c : Char} {cs : List Char} {ts : List Token} (hc : isMark c = true)
    (h : Lexes cs ts) : Lexes (c :: cs) (.mark c :: ts) := by
  have ht : (Token.mark c).isWellFormed = true := hc
  exact .token ht rfl h

/-! ### Reading tokens -/

/-- What comes before the next quote that no backslash hides, and what follows that quote. -/
def bodyAt? : List Char → Option (List Char × List Char)
  | [] => none
  | '"' :: cs => some ([], cs)
  | '\\' :: e :: cs => (bodyAt? cs).map fun (body, rest) => ('\\' :: e :: body, rest)
  | c :: cs => (bodyAt? cs).map fun (body, rest) => (c :: body, rest)

/-- The token that the first character announces, and what follows it. -/
def candidateAt? : List Char → Option (Token × List Char)
  | [] => none
  | c :: cs =>
    if c = '"' then (bodyAt? cs).map fun (body, rest) => (.string (String.ofList body), rest)
    else if isMark c then some (.mark c, cs)
    else if isNameStart c then
      (Sdl.nameAt? (c :: cs)).map fun (name, rest) => (.name (String.ofList name), rest)
    else (Json.numberAt? (c :: cs)).map fun (number, rest) => (.number number, rest)

def tokenAt? (cs : List Char) : Option (Token × List Char) :=
  (candidateAt? cs).filter fun (t, rest) => t.isWellFormed && t.endsBefore rest.head?

/-- The tokens of a text that has at most `fuel` characters. -/
def tokensWithin? : Nat → List Char → Option (List Token)
  | _, [] => some []
  | 0, _ :: _ => none
  | fuel + 1, c :: cs =>
    if isIgnored c then tokensWithin? fuel cs
    else do
      let (t, rest) ← tokenAt? (c :: cs)
      let ts ← tokensWithin? fuel rest
      some (t :: ts)

def tokens? (cs : List Char) : Option (List Token) :=
  tokensWithin? cs.length cs

/-! ### There is one way to read -/

theorem bodyAt?_append {body : List Char} (h : isStringBody body = true) (rest : List Char) :
    bodyAt? (body ++ '"' :: rest) = some (body, rest) := by
  fun_induction isStringBody body with
  | case1 => simp [bodyAt?]
  | case2 e cs ih =>
    simp only [Bool.and_eq_true] at h
    simp [bodyAt?, ih h.2]
  | case3 c cs hc ih =>
    simp only [Bool.and_eq_true, bne_iff_ne, ne_eq] at h
    simp [bodyAt?, h.1, ih h.2]

theorem eq_append_of_bodyAt? {cs body rest : List Char} (h : bodyAt? cs = some (body, rest)) :
    cs = body ++ '"' :: rest := by
  fun_induction bodyAt? cs generalizing body rest with
  | case1 => simp at h
  | case2 cs =>
    obtain ⟨rfl, rfl⟩ := Prod.mk.inj (Option.some.inj h)
    rfl
  | case3 e cs ih =>
    obtain ⟨⟨inner, rest'⟩, hinner, heq⟩ := Option.map_eq_some_iff.mp h
    obtain ⟨rfl, rfl⟩ := Prod.mk.inj heq
    simp [ih hinner]
  | case4 c cs _ _ ih =>
    obtain ⟨⟨inner, rest'⟩, hinner, heq⟩ := Option.map_eq_some_iff.mp h
    obtain ⟨rfl, rfl⟩ := Prod.mk.inj heq
    simp [ih hinner]

theorem eq_append_of_candidateAt? {cs rest : List Char} {t : Token}
    (h : candidateAt? cs = some (t, rest)) : cs = t.text ++ rest := by
  cases cs with
  | nil => simp [candidateAt?] at h
  | cons c cs =>
    rw [candidateAt?] at h
    split at h
    · next hc =>
      obtain ⟨⟨body, rest'⟩, hbody, heq⟩ := Option.map_eq_some_iff.mp h
      obtain ⟨rfl, rfl⟩ := Prod.mk.inj heq
      simp [Token.text, hc, eq_append_of_bodyAt? hbody]
    · split at h
      · obtain ⟨rfl, rfl⟩ := Prod.mk.inj (Option.some.inj h)
        rfl
      · split at h
        · obtain ⟨⟨name, rest'⟩, hname, heq⟩ := Option.map_eq_some_iff.mp h
          obtain ⟨rfl, rfl⟩ := Prod.mk.inj heq
          simpa [Token.text] using Sdl.eq_append_of_nameAt? hname
        · obtain ⟨⟨number, rest'⟩, hnumber, heq⟩ := Option.map_eq_some_iff.mp h
          obtain ⟨rfl, rfl⟩ := Prod.mk.inj heq
          exact Json.eq_append_of_numberAt? hnumber

theorem exists_name_eq_cons {text : String} (h : (Token.name text).isWellFormed = true) :
    ∃ c cs, text.toList = c :: cs ∧ isNameStart c = true := by
  have hname : isName text.toList = true := h
  cases hlist : text.toList with
  | nil => simp [hlist, isName] at hname
  | cons c cs =>
    rw [hlist] at hname
    exact ⟨c, cs, rfl, (Sdl.isName_cons.mp hname).1⟩

theorem exists_number_eq_cons {text : String} (h : (Token.number text).isWellFormed = true) :
    ∃ c cs, text.toList = c :: cs ∧ isNameStart c = false ∧ (isNameChar c = true ∨ c = '-') := by
  have hnumber : Json.numberAt? text.toList = some (text, []) := by
    simpa [Token.isWellFormed] using h
  cases hlist : text.toList with
  | nil => simp [hlist, Json.numberAt?_nil] at hnumber
  | cons c cs =>
    rw [hlist] at hnumber
    rcases Json.eq_or_isDigit_of_numberAt? hnumber with rfl | hc
    · exact ⟨'-', cs, rfl, by decide, .inr rfl⟩
    · exact ⟨c, cs, rfl, Sdl.isNameStart_of_isDigit hc,
        .inl (by rw [Sdl.isNameChar_eq_or, hc, Bool.or_true])⟩

theorem isNumberChar_eq_false {c : Char} (h : isNameChar c = false) (hpoint : c ≠ '.') :
    Json.isNumberChar c = false := by
  have hne : ∀ e, isNameChar e = true → c ≠ e := by
    rintro e he rfl
    simp [h] at he
  have hdigit : c.isDigit = false := by
    rw [Sdl.isNameChar_eq_or, Bool.or_eq_false_iff] at h
    exact h.2
  simp [Json.isNumberChar, hdigit, hpoint, hne 'e' (by decide), hne 'E' (by decide)]

theorem candidateAt?_cons {c : Char} (cs : List Char) (h : isNameChar c = true ∨ c = '-') :
    candidateAt? (c :: cs) =
      if isNameStart c then
        (Sdl.nameAt? (c :: cs)).map fun (name, rest) => (.name (String.ofList name), rest)
      else (Json.numberAt? (c :: cs)).map fun (number, rest) => (.number number, rest) := by
  have hquote : c ≠ '"' := by
    rintro rfl
    exact absurd h (by decide)
  have hmark : isMark c = false := by
    have hdelimiter := isDelimiter_eq_false h
    rw [isDelimiter, Bool.or_eq_false_iff] at hdelimiter
    exact hdelimiter.2
  simp [candidateAt?, hquote, hmark]

theorem candidateAt?_append {t : Token} {rest : List Char} (ht : t.isWellFormed = true)
    (hend : t.endsBefore rest.head? = true) : candidateAt? (t.text ++ rest) = some (t, rest) := by
  cases t with
  | mark c =>
    have hquote : c ≠ '"' := by
      rintro rfl
      exact absurd ht (by decide)
    have hc : isMark c = true := ht
    simp [Token.text, candidateAt?, hquote, hc]
  | name text =>
    have hread : Sdl.nameAt? (text.toList ++ rest) = some (text.toList, rest) :=
      Sdl.nameAt?_append ht hend
    obtain ⟨c, cs, hlist, hc⟩ := exists_name_eq_cons ht
    rw [Token.text, hlist, List.cons_append,
      candidateAt?_cons _ (.inl (Sdl.isNameChar_of_isNameStart hc)), if_pos hc,
      ← List.cons_append, ← hlist, hread]
    simp
  | number text =>
    have hnumber : Json.numberAt? text.toList = some (text, []) := by
      simpa [Token.isWellFormed] using ht
    have hread : Json.numberAt? (text.toList ++ rest) = some (text, rest) := by
      apply Json.numberAt?_append hnumber
      cases rest with
      | nil => rfl
      | cons d rest =>
        have hd : isNameChar d = false ∧ d ≠ '.' := by simpa [Token.endsBefore] using hend
        simp [isNumberChar_eq_false hd.1 hd.2]
    obtain ⟨c, cs, hlist, hstart, hc⟩ := exists_number_eq_cons ht
    rw [Token.text, hlist, List.cons_append, candidateAt?_cons _ hc, hstart,
      ← List.cons_append, ← hlist, hread]
    rfl
  | string body =>
    simp [Token.text, candidateAt?, bodyAt?_append ht]

theorem Token.text_eq_cons {t : Token} (h : t.isWellFormed = true) :
    ∃ c cs, t.text = c :: cs ∧ isIgnored c = false := by
  have hignored : ∀ c, isDelimiter c = false → isIgnored c = false := fun c hc => by
    rw [isDelimiter, Bool.or_eq_false_iff] at hc
    exact hc.1
  cases t with
  | mark c =>
    refine ⟨c, [], rfl, ?_⟩
    have hc : isMark c = true := h
    simp only [isMark, Bool.or_eq_true, beq_iff_eq] at hc
    rcases hc with (((((rfl | rfl) | rfl) | rfl) | rfl) | rfl) | rfl
    all_goals decide
  | name text =>
    obtain ⟨c, cs, hlist, hc⟩ := exists_name_eq_cons h
    exact ⟨c, cs, hlist,
      hignored c (isDelimiter_eq_false (.inl (Sdl.isNameChar_of_isNameStart hc)))⟩
  | number text =>
    obtain ⟨c, cs, hlist, -, hc⟩ := exists_number_eq_cons h
    exact ⟨c, cs, hlist, hignored c (isDelimiter_eq_false hc)⟩
  | string body => exact ⟨'"', _, rfl, rfl⟩

theorem tokenAt?_eq_some_iff {cs rest : List Char} {t : Token} :
    tokenAt? cs = some (t, rest) ↔
      cs = t.text ++ rest ∧ t.isWellFormed = true ∧ t.endsBefore rest.head? = true := by
  rw [tokenAt?, Option.filter_eq_some_iff, Bool.and_eq_true]
  constructor
  · rintro ⟨hcandidate, ht, hend⟩
    exact ⟨eq_append_of_candidateAt? hcandidate, ht, hend⟩
  · rintro ⟨rfl, ht, hend⟩
    exact ⟨candidateAt?_append ht hend, ht, hend⟩

theorem Lexes.tokensWithin?_eq {cs : List Char} {ts : List Token} (h : Lexes cs ts) {fuel : Nat}
    (hfuel : cs.length ≤ fuel) : tokensWithin? fuel cs = some ts := by
  induction h generalizing fuel with
  | nil => simp [tokensWithin?]
  | @ignored c cs ts hc _ ih =>
    cases fuel with
    | zero => simp at hfuel
    | succ fuel => simp [tokensWithin?, hc, ih (by simpa using hfuel)]
  | @token t rest ts ht hend _ ih =>
    obtain ⟨c, cs, htext, hc⟩ := Token.text_eq_cons ht
    have hread : tokenAt? (c :: (cs ++ rest)) = some (t, rest) :=
      tokenAt?_eq_some_iff.mpr ⟨by simp [htext], ht, hend⟩
    cases fuel with
    | zero => simp [htext] at hfuel
    | succ fuel =>
      have hrest : tokensWithin? fuel rest = some ts := by
        apply ih
        simp only [htext, List.cons_append, List.length_cons, List.length_append] at hfuel
        omega
      simp [htext, tokensWithin?, hc, hread, hrest]

theorem lexes_of_tokensWithin? {fuel : Nat} {cs : List Char} {ts : List Token}
    (h : tokensWithin? fuel cs = some ts) : Lexes cs ts := by
  induction fuel generalizing cs ts with
  | zero =>
    cases cs with
    | nil =>
      obtain rfl := Option.some.inj h
      exact .nil
    | cons c cs => simp [tokensWithin?] at h
  | succ fuel ih =>
    cases cs with
    | nil =>
      obtain rfl := Option.some.inj h
      exact .nil
    | cons c cs =>
      by_cases hc : isIgnored c = true
      · rw [tokensWithin?, if_pos hc] at h
        exact .ignored hc (ih h)
      · simp only [tokensWithin?, if_neg hc, Option.bind_eq_bind, Option.bind_eq_some_iff,
          Prod.exists, Option.some.injEq] at h
        obtain ⟨t, rest, htoken, us, hrest, rfl⟩ := h
        obtain ⟨hlist, ht, hend⟩ := tokenAt?_eq_some_iff.mp htoken
        rw [hlist]
        exact .token ht hend (ih hrest)

/-- A text has at most one list of tokens, and that is the one that is read. -/
theorem tokens?_eq_some_iff {cs : List Char} {ts : List Token} :
    tokens? cs = some ts ↔ Lexes cs ts :=
  ⟨lexes_of_tokensWithin?, fun h => h.tokensWithin?_eq le_rfl⟩

end SchemaExplorer.Query
