import SchemaExplorer.Proofs.Json.Text
import SchemaExplorer.Proofs.Query.Provided
import SchemaExplorer.Proofs.Query.Token

/-! # Values in quotes

A value is put in quotes as it stands. The literal stands for that value just when each of its
characters stands for itself between quotes. For an escape takes more characters than it writes:
where one is seen in a value, the literal stands for something shorter. -/

namespace SchemaExplorer.Query

/-! ### What a string literal stands for -/

/-- Between the quotes of a string on one line the character stands for itself. -/
def isPlain (c : Char) : Bool :=
  c != '"' && c != '\\' && c != '\n' && c != '\r'

/-- The text between the quotes of a string writes the code points. -/
inductive Spells : List Char → List Nat → Prop
  | nil : Spells [] []
  | plain {c cs ns} : isPlain c = true → Spells cs ns → Spells (c :: cs) (c.toNat :: ns)
  | escape {e c cs ns} : Json.escape? e = some c → Spells cs ns →
      Spells ('\\' :: e :: cs) (c.toNat :: ns)
  | codePoint {digits n cs ns} : digits.length = 4 → Text.number? 16 digits = some n →
      Spells cs ns → Spells ('\\' :: 'u' :: (digits ++ cs)) (n :: ns)

/-- The literal is one string on one line, and that stands for the text. Two surrogates among the
code points write one character. -/
def StandsFor (literal text : String) : Prop :=
  ∃ body ns, literal.toList = '"' :: (body ++ ['"']) ∧ Spells body ns ∧
    Json.charsOf? ns = some text.toList

/-! ### A literal stands for one text -/

theorem Spells.unique {cs : List Char} {ms ns : List Nat} (hm : Spells cs ms) (hn : Spells cs ns) :
    ms = ns := by
  induction hm generalizing ns with
  | nil => cases hn; rfl
  | plain hc _ ih =>
    cases hn with
    | plain _ hn => rw [ih hn]
    | escape => exact absurd hc (by decide)
    | codePoint => exact absurd hc (by decide)
  | escape he _ ih =>
    cases hn with
    | plain hc => exact absurd hc (by decide)
    | escape he' hn =>
      obtain rfl := Option.some.inj (he.symm.trans he')
      rw [ih hn]
    | codePoint => simp [Json.escape?] at he
  | @codePoint digits n cs ms hlength hnumber _ ih =>
    -- The digits cannot be told from what follows them by cases, but there are always four.
    generalize hw : '\\' :: 'u' :: (digits ++ cs) = word at hn
    cases hn with
    | nil => simp at hw
    | plain hc =>
      obtain ⟨rfl, -⟩ := List.cons.inj hw
      exact absurd hc (by decide)
    | escape he' hn =>
      obtain ⟨rfl, -⟩ := List.cons.inj (List.cons.inj hw).2
      simp [Json.escape?] at he'
    | codePoint hlength' hnumber' hn =>
      simp only [List.cons.injEq, true_and] at hw
      obtain ⟨rfl, rfl⟩ := List.append_inj hw (hlength.trans hlength'.symm)
      rw [Option.some.inj (hnumber.symm.trans hnumber'), ih hn]

theorem StandsFor.unique {literal s t : String} (hs : StandsFor literal s)
    (ht : StandsFor literal t) : s = t := by
  obtain ⟨body, ns, hbody, hspells, hchars⟩ := hs
  obtain ⟨body', ns', hbody', hspells', hchars'⟩ := ht
  have hsame : body = body' := by
    have hlists := hbody.symm.trans hbody'
    simpa using hlists
  subst hsame
  rw [hspells.unique hspells', hchars'] at hchars
  exact (String.toList_inj.mp (Option.some.inj hchars)).symm

/-! ### A literal is one token -/

theorem isStringBody_cons_of_plain {c : Char} (cs : List Char) (hc : isPlain c = true) :
    isStringBody (c :: cs) = isStringBody cs := by
  simp only [isPlain, Bool.and_eq_true, bne_iff_ne, ne_eq] at hc
  simp [isStringBody, hc]

theorem isStringBody_append {front cs : List Char} (h : ∀ c ∈ front, isPlain c = true) :
    isStringBody (front ++ cs) = isStringBody cs := by
  induction front with
  | nil => rfl
  | cons c front ih =>
    obtain ⟨hc, hfront⟩ := List.forall_mem_cons.mp h
    rw [List.cons_append, isStringBody_cons_of_plain _ hc, ih hfront]

theorem isPlain_of_isHexDigit {c : Char} (h : isHexDigit c = true) : isPlain c = true := by
  have hne : ∀ d, isHexDigit d = false → c ≠ d := by
    rintro d hd rfl
    simp [h] at hd
  simp [isPlain, hne '"' (by decide), hne '\\' (by decide), hne '\n' (by decide),
    hne '\r' (by decide)]

theorem isHexDigit_of_number? {base n : Nat} {digits : List Char}
    (h : Text.number? base digits = some n) : ∀ c ∈ digits, isHexDigit c = true := by
  obtain ⟨ns, hns, -⟩ := Option.map_eq_some_iff.mp h
  clear h
  induction digits generalizing ns with
  | nil => simp
  | cons c digits ih =>
    simp only [List.mapM_cons, Option.bind_eq_bind, Option.bind_eq_some_iff] at hns
    obtain ⟨m, hm, ms, hms, -⟩ := hns
    have hc : isHexDigit c = true := by
      simp [isHexDigit, (Option.filter_eq_some_iff.mp hm).1]
    exact List.forall_mem_cons.mpr ⟨hc, ih ms hms⟩

theorem Spells.isStringBody {cs : List Char} {ns : List Nat} (h : Spells cs ns) :
    isStringBody cs = true := by
  induction h with
  | nil => rfl
  | plain hc _ ih => rwa [isStringBody_cons_of_plain _ hc]
  | @escape e c cs ns he _ ih =>
    have hu : e ≠ 'u' := by
      rintro rfl
      simp [Json.escape?] at he
    simp [Query.isStringBody, isEscape, hu, he, ih]
  | @codePoint digits n cs ns hlength hnumber _ ih =>
    have hdigits := isHexDigit_of_number? hnumber
    have hescape : isEscape 'u' (digits ++ cs) = true := by
      simp [isEscape, List.takeWhile_append_of_pos hdigits, hlength]
    have hbody : Query.isStringBody (digits ++ cs) = true := by
      rwa [isStringBody_append fun c hc => isPlain_of_isHexDigit (hdigits c hc)]
    simp [Query.isStringBody, hescape, hbody]

theorem StandsFor.lexes {literal text : String} (h : StandsFor literal text) :
    ∃ body, Lexes literal.toList [.string body] := by
  obtain ⟨body, ns, hbody, hspells, -⟩ := h
  have hwell : (Token.string (String.ofList body)).isWellFormed = true := by
    simpa [Token.isWellFormed] using hspells.isStringBody
  have htext : literal.toList = (Token.string (String.ofList body)).text := by
    simp [Token.text, hbody]
  exact ⟨String.ofList body, htext ▸ .single hwell⟩

/-! ### Escapes take more characters than they write -/

namespace Spells

theorem of_plain {cs : List Char} (h : ∀ c ∈ cs, isPlain c = true) :
    Spells cs (cs.map Char.toNat) := by
  induction cs with
  | nil => exact .nil
  | cons c cs ih =>
    obtain ⟨hc, hcs⟩ := List.forall_mem_cons.mp h
    exact .plain hc (ih hcs)

theorem length_le {cs : List Char} {ns : List Nat} (h : Spells cs ns) :
    ns.length ≤ cs.length := by
  induction h with
  | nil => exact Nat.le_refl 0
  | plain _ _ ih => simpa using ih
  | escape _ _ ih =>
    simp only [List.length_cons]
    omega
  | codePoint hlength _ _ ih =>
    simp only [List.length_cons, List.length_append]
    omega

/-- A text that writes as many code points as it has characters has no escape in it. -/
theorem isPlain_of_length_le {cs : List Char} {ns : List Nat} (h : Spells cs ns)
    (hlength : cs.length ≤ ns.length) : ∀ c ∈ cs, isPlain c = true := by
  induction h with
  | nil => simp
  | plain hc _ ih =>
    have hcs := ih (by simpa using hlength)
    exact List.forall_mem_cons.mpr ⟨hc, hcs⟩
  | escape _ h _ =>
    have hshort := h.length_le
    simp only [List.length_cons] at hlength
    omega
  | codePoint _ _ h _ =>
    have hshort := h.length_le
    simp only [List.length_cons, List.length_append] at hlength
    omega

end Spells

/-- Two surrogates write one character, and every other code point one as well. -/
theorem length_le_of_charsOf? {ns : List Nat} {cs : List Char} (h : Json.charsOf? ns = some cs) :
    cs.length ≤ ns.length := by
  fun_induction Json.charsOf? ns generalizing cs with
  | case1 =>
    obtain rfl := Option.some.inj h
    rfl
  | case2 n _ m ms _ ih =>
    obtain ⟨ds, hds, rfl⟩ := Option.map_eq_some_iff.mp h
    have hlength := ih hds
    simp only [List.length_cons]
    omega
  | case3 | case4 | case5 => simp at h
  | case6 n ns _ _ ih =>
    obtain ⟨ds, hds, rfl⟩ := Option.map_eq_some_iff.mp h
    simpa using ih hds

/-! ### Values that are provided -/

/-- A text that is put in quotes as it is comes out again if nothing in it has a meaning of its
own there, and only then. -/
theorem standsFor_quoted_iff {text : String} :
    StandsFor ("\"" ++ text ++ "\"") text ↔ ∀ c ∈ text.toList, isPlain c = true := by
  constructor
  · rintro ⟨body, ns, hbody, hspells, hchars⟩
    obtain rfl : text.toList = body := by simpa using hbody
    exact hspells.isPlain_of_length_le (length_le_of_charsOf? hchars)
  · intro h
    exact ⟨text.toList, text.toList.map Char.toNat, by simp, .of_plain h,
      Json.charsOf?_map_toNat text.toList⟩

theorem providedLiteral_of_quoted {typeName : String} (value : String)
    (h : bareTypeName typeName = "ID" ∨ bareTypeName typeName = "String") :
    providedLiteral typeName value = "\"" ++ value ++ "\"" := by
  simp [providedLiteral, h]

/-- The literal is one string and stands for the text and no other. -/
theorem standsFor_iff_forall {literal text : String} :
    StandsFor literal text ↔
      (∃ body, Lexes literal.toList [.string body]) ∧ ∀ t, StandsFor literal t ↔ t = text := by
  constructor
  · intro h
    refine ⟨h.lexes, fun t => ⟨fun ht => ht.unique h, ?_⟩⟩
    rintro rfl
    exact h
  · exact fun h => (h.2 text).mpr rfl

/-- Where an identifier or a string is asked for, what is written is one string and stands for the
value that is provided, just when no quote, backslash or line end is in that. -/
theorem literal_standsFor_iff {config : Config} {f : Field} {a : Argument}
    {provided : OrderedMap String} {value : String} (ha : a ∈ f.args)
    (htype : bareTypeName a.typeName = "ID" ∨ bareTypeName a.typeName = "String")
    (hvalue : provided.get? a.name = some value) (hblank : Text.trim value ≠ "") :
    (∃ front back, generate config f provided =
        front ++ (a.name ++ ": " ++ literal config f.name provided a) ++ back) ∧
      (((∃ body, Lexes (literal config f.name provided a).toList [.string body]) ∧
          ∀ text, StandsFor (literal config f.name provided a) text ↔ text = Text.trim value) ↔
        '"' ∉ (Text.trim value).toList ∧ '\\' ∉ (Text.trim value).toList ∧
          '\n' ∉ (Text.trim value).toList ∧ '\r' ∉ (Text.trim value).toList) := by
  have hplain : (∀ c ∈ (Text.trim value).toList, isPlain c = true) ↔
      '"' ∉ (Text.trim value).toList ∧ '\\' ∉ (Text.trim value).toList ∧
        '\n' ∉ (Text.trim value).toList ∧ '\r' ∉ (Text.trim value).toList := by
    simp only [isPlain, Bool.and_eq_true, bne_iff_ne, and_assoc, imp_and, forall_and, ne_eq,
      List.forall_mem_ne']
  have hliteral : literal config f.name provided a = "\"" ++ Text.trim value ++ "\"" := by
    rw [literal_of_provided hvalue hblank, providedLiteral_of_quoted _ htype]
  refine ⟨exists_generate_eq_append config f provided ha, ?_⟩
  rw [← standsFor_iff_forall, hliteral, standsFor_quoted_iff, hplain]

def codeArgument : Argument :=
  { name := "code", typeName := "ID", defaultValue := none, isNonNull := true }

def noteArgument : Argument :=
  { name := "note", typeName := "String", defaultValue := none, isNonNull := false }

def notedCountry : Field :=
  { name := "country", typeName := "Country", isList := false, isNonNull := false
    args := [codeArgument, noteArgument], description := none }

/-- The second value is a string when it is put in quotes, but another one. -/
def notedValues : OrderedMap String :=
  .ofList [("code", " BR\t"), ("note", "x\\u0041")]

theorem literal_standsFor_iff_notedCountry :
    (codeArgument ∈ notedCountry.args ∧ bareTypeName codeArgument.typeName = "ID" ∧
        notedValues.get? "code" = some " BR\t") ∧
      (noteArgument ∈ notedCountry.args ∧ bareTypeName noteArgument.typeName = "String" ∧
        notedValues.get? "note" = some "x\\u0041") ∧
      (∀ text, StandsFor (literal .builtin "country" notedValues codeArgument) text ↔
        text = "BR") ∧
      ¬ StandsFor (literal .builtin "country" notedValues noteArgument) "x\\u0041" ∧
      StandsFor (literal .builtin "country" notedValues noteArgument) "xA" := by
  have hcodeGiven : codeArgument ∈ notedCountry.args ∧ bareTypeName codeArgument.typeName = "ID" ∧
      notedValues.get? "code" = some " BR\t" := by decide
  have hnoteGiven : noteArgument ∈ notedCountry.args ∧
      bareTypeName noteArgument.typeName = "String" ∧
      notedValues.get? "note" = some "x\\u0041" := by decide
  have hcode := (@literal_standsFor_iff .builtin notedCountry codeArgument notedValues " BR\t"
    hcodeGiven.1 (.inl hcodeGiven.2.1) hcodeGiven.2.2 (by decide)).2
  have hnote := (@literal_standsFor_iff .builtin notedCountry noteArgument notedValues "x\\u0041"
    hnoteGiven.1 (.inr hnoteGiven.2.1) hnoteGiven.2.2 (by decide)).2
  have htrimCode : Text.trim " BR\t" = "BR" := by decide
  have htrimNote : Text.trim "x\\u0041" = "x\\u0041" := by decide
  rw [htrimCode] at hcode
  rw [htrimNote, ← standsFor_iff_forall] at hnote
  have hspells : Spells ('x' :: '\\' :: 'u' :: (['0', '0', '4', '1'] ++ [])) [0x78, 0x41] :=
    .plain (by decide) (.codePoint rfl (by decide) .nil)
  have hother : StandsFor (literal .builtin "country" notedValues noteArgument) "xA" :=
    ⟨_, _, by decide, hspells, by decide⟩
  exact ⟨hcodeGiven, hnoteGiven, (hcode.mpr (by decide)).2, hnote.not.mpr (by decide), hother⟩

end SchemaExplorer.Query
