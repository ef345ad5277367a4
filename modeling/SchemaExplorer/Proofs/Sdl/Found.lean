import Mathlib.Data.List.Infix
import SchemaExplorer.Proofs.Sdl.Member

/-! # Members that are found in a line

Whatever stands around a member in its line, the member is made of pieces of that line: its name
and the core of its type are what they have to be, and its default values are among the characters
of the line. -/

namespace SchemaExplorer

open Text (isBlank)
open Sdl

/-! ### Pieces of a line -/

namespace Sdl

theorem skipBlanks_suffix (cs : List Char) : skipBlanks cs <:+ cs :=
  List.dropWhile_suffix isBlank

theorem suffix_of_after? {c : Char} {cs rest : List Char}
    (h : after? c (skipBlanks cs) = some rest) : rest <:+ cs := by
  have hrest : rest <:+ skipBlanks cs := by
    rw [after?_eq_some_iff.mp h]
    exact List.suffix_cons c rest
  exact hrest.trans (skipBlanks_suffix cs)

theorem suffix_of_nameAt? {cs name rest : List Char} (h : nameAt? cs = some (name, rest)) :
    rest <:+ cs := by
  rw [eq_append_of_nameAt? h]
  exact List.suffix_append name rest

/-- Brackets that open, the start of a name, and any mixture of name characters and wrappers. -/
def IsReference (cs : List Char) : Prop :=
  ∃ brackets c tail, cs = brackets ++ c :: tail ∧ (∀ b ∈ brackets, b = '[') ∧
    isNameStart c = true ∧ ∀ d ∈ tail, isReferenceChar d = true

theorem referenceAt?_eq_some {cs reference rest : List Char}
    (h : referenceAt? cs = some (reference, rest)) :
    cs = reference ++ rest ∧ IsReference reference := by
  have hsplit : cs = cs.takeWhile (· == '[') ++ cs.dropWhile (· == '[') :=
    List.takeWhile_append_dropWhile.symm
  rw [referenceAt?] at h
  split at h
  · simp at h
  · next c tail hdrop =>
    split at h
    · next hc =>
      obtain ⟨rfl, rfl⟩ := Prod.mk.inj (Option.some.inj h)
      refine ⟨?_, _, c, _, rfl, ?_, hc, fun d hd => List.mem_takeWhile_imp hd⟩
      · rw [hdrop] at hsplit
        simpa using hsplit
      · intro b hb
        simpa using List.mem_takeWhile_imp hb
    · simp at h

theorem suffix_of_referenceAt? {cs reference rest : List Char}
    (h : referenceAt? (skipBlanks cs) = some (reference, rest)) : rest <:+ cs := by
  have hrest : rest <:+ skipBlanks cs := by
    rw [(referenceAt?_eq_some h).1]
    exact List.suffix_append reference rest
  exact hrest.trans (skipBlanks_suffix cs)

theorem infix_of_argumentsAt? {cs inside rest : List Char}
    (h : argumentsAt? cs = some (some inside, rest)) : inside <:+: cs ∧ ')' ∉ inside := by
  rw [argumentsAt?] at h
  split at h
  · simp at h
  · next behind hbehind =>
    obtain ⟨back, -, hpair⟩ := Option.map_eq_some_iff.mp h
    obtain ⟨hinside, -⟩ := Prod.mk.inj hpair
    obtain rfl := Option.some.inj hinside
    constructor
    · rw [after?_eq_some_iff.mp hbehind]
      exact (List.takeWhile_prefix _).isInfix.trans (List.suffix_cons '(' behind).isInfix
    · intro hmem
      simpa using List.mem_takeWhile_imp hmem

theorem suffix_of_argumentsAt? {cs rest : List Char} {arguments : Option (List Char)}
    (h : argumentsAt? (skipBlanks cs) = some (arguments, rest)) : rest <:+ cs := by
  have hrest : rest <:+ skipBlanks cs := by
    rw [argumentsAt?] at h
    split at h
    · obtain ⟨-, rfl⟩ := Prod.mk.inj (Option.some.inj h)
      exact List.suffix_rfl
    · next behind hbehind =>
      obtain ⟨back, hback, hpair⟩ := Option.map_eq_some_iff.mp h
      obtain ⟨-, rfl⟩ := Prod.mk.inj hpair
      have hsuffix : back <:+ behind.dropWhile (· != ')') := by
        rw [after?_eq_some_iff.mp hback]
        exact List.suffix_cons ')' back
      rw [after?_eq_some_iff.mp hbehind]
      exact (hsuffix.trans (List.dropWhile_suffix _)).trans (List.suffix_cons '(' behind)
  exact hrest.trans (skipBlanks_suffix cs)

theorem infix_of_defaultAt? {stop : Char → Bool} {cs text : List Char}
    (h : defaultAt? stop cs = some text) : text <:+: cs ∧ ∀ c ∈ text, stop c = false := by
  obtain ⟨behind, hbehind, rfl⟩ := Option.map_eq_some_iff.mp h
  constructor
  · exact ((List.takeWhile_prefix _).isInfix.trans (skipBlanks_suffix behind).isInfix).trans
      (suffix_of_after? hbehind).isInfix
  · intro c hc
    simpa using List.mem_takeWhile_imp hc

end Sdl

/-! ### Members and arguments as they are written -/

namespace Sdl

/-- What the parts of a member are that is found in `cs`. -/
structure Member.IsFoundIn (m : Member) (stop : Char → Bool) (cs : List Char) : Prop where
  isName : isName m.name.toList = true
  isReference : IsReference m.reference.toList
  arguments : ∀ text ∈ m.arguments, text.toList <:+: cs ∧ ')' ∉ text.toList
  defaultText : ∀ text ∈ m.defaultText, text.toList <:+: cs ∧ ∀ c ∈ text.toList, stop c = false

theorem Member.IsFoundIn.mono {m : Member} {stop : Char → Bool} {cs ds : List Char}
    (h : m.IsFoundIn stop cs) (hcs : cs <:+: ds) : m.IsFoundIn stop ds :=
  ⟨h.isName, h.isReference, fun text ht => ⟨(h.arguments text ht).1.trans hcs, (h.arguments text ht).2⟩,
    fun text ht => ⟨(h.defaultText text ht).1.trans hcs, (h.defaultText text ht).2⟩⟩

theorem isFoundIn_of_memberAt? {cs : List Char} {m : Member} (h : memberAt? cs = some m) :
    m.IsFoundIn (· == '\n') cs := by
  simp only [memberAt?, Option.bind_eq_bind, Option.bind_eq_some_iff, Prod.exists] at h
  obtain ⟨name, cs₁, hname, arguments, cs₂, harguments, cs₃, hcolon, reference, cs₄, hreference,
    hm⟩ := h
  obtain rfl := Option.some.inj hm
  have h₁ : cs₁ <:+ cs := suffix_of_nameAt? hname
  have h₂ : cs₂ <:+ cs := (suffix_of_argumentsAt? harguments).trans h₁
  have h₄ : cs₄ <:+ cs := ((suffix_of_referenceAt? hreference).trans (suffix_of_after? hcolon)).trans h₂
  refine ⟨by simpa using isName_of_nameAt? hname, by simpa using (referenceAt?_eq_some hreference).2,
    ?_, ?_⟩
  · intro text ht
    obtain ⟨inside, rfl, rfl⟩ := Option.map_eq_some_iff.mp ht
    obtain ⟨hpart, hclosing⟩ := infix_of_argumentsAt? harguments
    simpa [hclosing] using (hpart.trans (skipBlanks_suffix cs₁).isInfix).trans h₁.isInfix
  · intro text ht
    obtain ⟨value, hvalue, rfl⟩ := Option.map_eq_some_iff.mp ht
    obtain ⟨hpart, hstop⟩ := infix_of_defaultAt? (Option.filter_eq_some_iff.mp hvalue).1
    exact ⟨by simpa using hpart.trans h₄.isInfix, by simpa using hstop⟩

theorem isFoundIn_of_argumentAt? {cs : List Char} {m : Member} (h : argumentAt? cs = some m) :
    m.IsFoundIn (fun c => c == ',' || c == ')') cs := by
  simp only [argumentAt?, Option.bind_eq_bind, Option.bind_eq_some_iff, Prod.exists] at h
  obtain ⟨name, cs₁, hname, cs₂, hcolon, reference, cs₃, hreference, hm⟩ := h
  obtain rfl := Option.some.inj hm
  have h₃ : cs₃ <:+ cs :=
    ((suffix_of_referenceAt? hreference).trans (suffix_of_after? hcolon)).trans (suffix_of_nameAt? hname)
  refine ⟨by simpa using isName_of_nameAt? hname, by simpa using (referenceAt?_eq_some hreference).2,
    by simp, ?_⟩
  intro text ht
  obtain ⟨value, hvalue, rfl⟩ := Option.map_eq_some_iff.mp ht
  obtain ⟨hpart, hstop⟩ := infix_of_defaultAt? hvalue
  exact ⟨by simpa using hpart.trans h₃.isInfix, by simpa using hstop⟩

theorem isFoundIn_of_member? {cs : List Char} {m : Member} (h : member? cs = some m) :
    m.IsFoundIn (· == '\n') cs := by
  obtain ⟨back, hback, hat⟩ := exists_suffix_of_firstMatch? h
  exact (isFoundIn_of_memberAt? hat).mono hback.isInfix

theorem isFoundIn_of_argument? {cs : List Char} {m : Member} (h : argument? cs = some m) :
    m.IsFoundIn (fun c => c == ',' || c == ')') cs := by
  obtain ⟨back, hback, hat⟩ := exists_suffix_of_firstMatch? h
  exact (isFoundIn_of_argumentAt? hat).mono hback.isInfix

/-! ### What becomes of them -/

/-- Behind its brackets a reference has a core, up to its last name character, and then wrappers. -/
theorem IsReference.exists_core {cs : List Char} (h : IsReference cs) :
    ∃ brackets core closing, cs = brackets ++ (core ++ closing) ∧ (∀ b ∈ brackets, b = '[') ∧
      isCore core = true ∧ ∀ c ∈ closing, isWrapper c = true := by
  obtain ⟨brackets, c, tail, rfl, hbrackets, hc, htail⟩ := h
  have hwrapper : isWrapper c = false :=
    isWrapper_of_isNameChar (isNameChar_of_isNameStart hc)
  have hprefix : Text.dropEndWhile isWrapper (c :: tail) <+: c :: tail :=
    List.rdropWhile_prefix isWrapper _
  have hlast : (Text.dropEndWhile isWrapper (c :: tail)).getLast?.all (!isWrapper ·) = true := by
    rw [Text.dropEndWhile, List.getLast?_reverse]
    exact Text.all_head?_dropWhile _
  refine ⟨brackets, Text.dropEndWhile isWrapper (c :: tail), (c :: tail).rtakeWhile isWrapper, ?_,
    hbrackets, ?_, fun d hd => List.mem_rtakeWhile_imp hd⟩
  · rw [Text.dropEndWhile, ← List.rdropWhile, List.rdropWhile_append_rtakeWhile]
  · cases hcore : Text.dropEndWhile isWrapper (c :: tail) with
    | nil =>
      have hall := List.rdropWhile_eq_nil_iff.mp hcore
      simp [hwrapper] at hall
    | cons d core =>
      rw [hcore] at hprefix hlast
      obtain ⟨rfl, hbehind⟩ := List.cons_prefix_cons.mp hprefix
      exact isCore_cons.mpr ⟨hc, fun e he => htail e (hbehind.subset he), hlast⟩

/-- The wrappers at the ends of a reference go; those inside its core stay. -/
theorem IsReference.exists_bareTypeName {reference : String} (h : IsReference reference.toList) :
    ∃ brackets core closing, reference.toList = brackets ++ (core ++ closing) ∧
      (∀ b ∈ brackets, b = '[') ∧ isCore core = true ∧ (∀ c ∈ closing, isWrapper c = true) ∧
      bareTypeName reference = String.ofList core := by
  obtain ⟨brackets, core, closing, htext, hbrackets, hcore, hclosing⟩ := h.exists_core
  exact ⟨brackets, core, closing, htext, hbrackets, hcore, hclosing,
    bareTypeName_eq htext hbrackets hcore hclosing⟩

theorem IsReference.isCore_bareTypeName {reference : String} (h : IsReference reference.toList) :
    isCore (bareTypeName reference).toList = true := by
  obtain ⟨_, core, _, -, -, hcore, -, hbare⟩ := h.exists_bareTypeName
  rw [hbare, String.toList_ofList]
  exact hcore

/-- A default value is among the characters of the line and can be written as it is kept. -/
theorem Member.IsFoundIn.defaultValue {m : Member} {stop : Char → Bool} {cs : List Char}
    (h : m.IsFoundIn stop cs) :
    ∀ v ∈ m.defaultValue, IsDefault stop v ∧ v.toList <:+: cs := by
  intro v hv
  obtain ⟨text, htext, hblank⟩ := Option.bind_eq_some_iff.mp hv
  obtain ⟨rfl, hne⟩ := Text.nonBlank?_eq_some_iff.mp hblank
  obtain ⟨hpart, hstop⟩ := h.defaultText text htext
  have htrim : (Text.trim text).toList <:+: text.toList := by
    rw [Text.toList_trim]
    exact Text.isInfix_stripChars isBlank _
  exact ⟨⟨Text.trim_trim text, hne, fun c hc => hstop c (htrim.subset hc)⟩, htrim.trans hpart⟩

theorem Member.IsFoundIn.isNamed_argument {m : Member} {stop : Char → Bool} {cs : List Char}
    (h : m.IsFoundIn stop cs) : m.argument.IsNamed :=
  ⟨h.isName, h.isReference.isCore_bareTypeName⟩

/-- An argument in a list of them was found in a piece of the list. -/
theorem exists_isFoundIn_of_mem_argumentList {text : String} {a : Argument}
    (h : a ∈ argumentList text) :
    ∃ m : Member, m.argument = a ∧ m.IsFoundIn (fun c => c == ',' || c == ')') text.toList := by
  obtain ⟨piece, hpiece, hread⟩ := List.mem_filterMap.mp h
  obtain ⟨m, hm, rfl⟩ := Option.map_eq_some_iff.mp hread
  refine ⟨m, rfl, (isFoundIn_of_argument? hm).mono ?_⟩
  exact (Text.isInfix_stripChars isBlank piece).trans (Text.infix_of_mem_splitChars hpiece)

theorem Member.IsFoundIn.exists_of_mem_args {m : Member} {stop : Char → Bool} {cs : List Char}
    (h : m.IsFoundIn stop cs) {description : Option String} {a : Argument}
    (ha : a ∈ (m.field description).args) :
    ∃ n : Member, n.argument = a ∧ n.IsFoundIn (fun c => c == ',' || c == ')') cs := by
  cases harguments : m.arguments with
  | none => simp [Member.field, harguments] at ha
  | some text =>
    have hmem : a ∈ argumentList text := by simpa [Member.field, harguments] using ha
    obtain ⟨n, hn, hfound⟩ := exists_isFoundIn_of_mem_argumentList hmem
    exact ⟨n, hn, hfound.mono (h.arguments text harguments).1⟩

theorem Member.IsFoundIn.isNamed_field {m : Member} {stop : Char → Bool} {cs : List Char}
    (h : m.IsFoundIn stop cs) (description : Option String) : (m.field description).IsNamed := by
  refine ⟨h.isName, h.isReference.isCore_bareTypeName, fun a ha => ?_⟩
  obtain ⟨n, rfl, hn⟩ := h.exists_of_mem_args ha
  exact ⟨hn.isNamed_argument, fun v hv => (hn.defaultValue v hv).1⟩

end Sdl

end SchemaExplorer
