import Mathlib.Data.List.Infix
import SchemaExplorer.Proofs.Sdl.Reader

/-! # Reading on

What the types read so far have to fear from one more line: it may add a type, replace the last
one by another, or give the last one a member. What is finished stays for good. -/

namespace SchemaExplorer.Sdl

/-! ### What a line changes -/

/-- The last type has one more field, or one more input field, and is otherwise the same. -/
def GainsMember (before after : List TypeDefinition) : Prop :=
  ∃ front d, before = front ++ [d] ∧
    ((∃ f, after = front ++ [d.addField f]) ∨ ∃ a, after = front ++ [d.addInputField a])

/-- What the types read after a line may differ in from those read before it. -/
structure GrowsTo (before after : List TypeDefinition) (isIntro : Prop) : Prop where
  length_le : before.length ≤ after.length
  length_le_succ : after.length ≤ before.length + 1
  isIntro_of_length_lt : before.length < after.length → isIntro
  getElem?_eq : ∀ n, n + 1 < before.length → after[n]? = before[n]?
  eq_or_gainsMember : ¬ isIntro → after = before ∨ GainsMember before after

namespace GrowsTo

variable {before after front : List TypeDefinition} {isIntro : Prop}

theorem of_eq (h : after = before) : GrowsTo before after isIntro := by
  subst h
  exact ⟨le_rfl, by omega, fun h => absurd h (by omega), fun n _ => rfl, fun _ => .inl rfl⟩

theorem of_gainsMember (h : GainsMember before after) : GrowsTo before after isIntro := by
  obtain ⟨front, d, rfl, hafter⟩ := id h
  have hlast : ∃ e, after = front ++ [e] := by
    rcases hafter with ⟨f, rfl⟩ | ⟨a, rfl⟩
    · exact ⟨_, rfl⟩
    · exact ⟨_, rfl⟩
  obtain ⟨e, rfl⟩ := hlast
  refine ⟨by simp, by simp, by simp, fun n hn => ?_, fun _ => .inr h⟩
  have hlt : n < front.length := by simpa using hn
  rw [List.getElem?_append_left hlt, List.getElem?_append_left hlt]

/-- Behind an introduction there is one more type, or another one in the place of the last. -/
theorem of_introduced {d : TypeDefinition} (hintro : isIntro)
    (h : before = front ∨ ∃ e, before = front ++ [e]) :
    GrowsTo before (front ++ [d]) isIntro := by
  rcases h with rfl | ⟨e, rfl⟩
  · refine ⟨by simp, by simp, fun _ => hintro, fun n hn => ?_, absurd hintro⟩
    rw [List.getElem?_append_left (by omega)]
  · refine ⟨by simp, by simp, fun _ => hintro, fun n hn => ?_, absurd hintro⟩
    have hlt : n < front.length := by simpa using hn
    rw [List.getElem?_append_left hlt, List.getElem?_append_left hlt]

end GrowsTo

namespace Reader

/-! ### One line -/

/-- What an introduction leaves is all that was read, or all but a type with an open body. -/
theorem finish_eq_settled_or (r : Reader) :
    r.finish = r.settled ∨ ∃ d, r.finish = r.settled ++ [d] := by
  cases hp : r.place with
  | outside => exact .inl (by simp [settled, hp])
  | header d => exact .inl (by simp [settled, hp])
  | body d => exact .inr ⟨d, by simp [settled, finish, hp, Place.type?]⟩

theorem definitions_prefix_settled (r : Reader) : r.definitions <+: r.settled := by
  cases hp : r.place <;> simp [settled, hp, finish]

theorem gainsMember_addMember (front : List TypeDefinition) (d : TypeDefinition) (m : Member)
    (description : Option String) :
    front ++ [addMember d m description] = front ++ [d] ∨
      GainsMember (front ++ [d]) (front ++ [addMember d m description]) := by
  rw [addMember]
  split
  · exact .inr ⟨front, d, rfl, .inl ⟨_, rfl⟩⟩
  · split
    · exact .inr ⟨front, d, rfl, .inr ⟨_, rfl⟩⟩
    · exact .inl rfl

theorem finish_readOther (r : Reader) (cs : List Char) :
    (r.readOther cs).finish = r.finish ∨ GainsMember r.finish (r.readOther cs).finish := by
  rcases readOther_cases r cs with h | ⟨d, hp, h⟩ | h | ⟨d, m, hp, -, h⟩
  · exact .inl (by rw [h])
  · exact .inl (by simp [h, finish, hp, Place.type?])
  · exact .inl (by rw [h, finish_closeType])
  · have hgains := gainsMember_addMember r.definitions d m r.description
    simpa [h, finish, hp, Place.type?] using hgains

theorem finish_readLine (r : Reader) (line : String) :
    GrowsTo r.finish (r.readLine line).finish (∃ i, lineOf line = .intro i) := by
  cases h : lineOf line with
  | ignored => exact .of_eq (by rw [readLine_of_ignored h])
  | description text => exact .of_eq (by rw [readLine_of_description h]; rfl)
  | intro i =>
    rw [readLine_of_intro h, finish_startType]
    exact .of_introduced ⟨i, rfl⟩ (finish_eq_settled_or r)
  | other =>
    rw [readLine_of_other h]
    rcases finish_readOther r (Text.trimChars line.toList) with heq | hgains
    · exact .of_eq heq
    · exact .of_gainsMember hgains

theorem definitions_prefix_readLine (r : Reader) (line : String) :
    r.definitions <+: (r.readLine line).definitions := by
  cases h : lineOf line with
  | ignored => rw [readLine_of_ignored h]
  | description text => rw [readLine_of_description h]
  | intro i =>
    rw [readLine_of_intro h, startType_eq]
    split
    · exact r.definitions_prefix_settled.trans (List.prefix_append _ _)
    · exact r.definitions_prefix_settled
  | other =>
    rw [readLine_of_other h]
    rcases readOther_cases r (Text.trimChars line.toList) with h | ⟨d, -, h⟩ | h | ⟨d, m, -, -, h⟩
    · rw [h]
    · rw [h]
    · rw [h]
      exact List.prefix_append _ _
    · rw [h]

/-! ### All lines that follow -/

theorem definitions_prefix_readLines (r : Reader) (lines : List String) :
    r.definitions <+: (r.readLines lines).definitions := by
  induction lines generalizing r with
  | nil => exact List.prefix_rfl
  | cons line lines ih => exact (r.definitions_prefix_readLine line).trans (ih (r.readLine line))

/-- After any lines, one more line adds at most one type, and only if it introduces one; it leaves
all but the last type alone, and without introducing a type it gives the last one a member at
most. A type that is finished stays in its place, whatever lines follow. -/
theorem growsTo_finish_readLines (lines : List String) (line : String) :
    GrowsTo (start.readLines lines).finish (start.readLines (lines ++ [line])).finish
        (∃ i, lineOf line = .intro i) ∧
      ∀ more, (start.readLines lines).definitions <+:
        (start.readLines (lines ++ more)).definitions := by
  constructor
  · rw [readLines_concat]
    exact finish_readLine _ line
  · intro more
    rw [readLines_append]
    exact definitions_prefix_readLines _ more

end Reader

end SchemaExplorer.Sdl
