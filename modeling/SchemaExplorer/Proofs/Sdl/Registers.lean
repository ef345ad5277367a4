import SchemaExplorer.Proofs.Catalog.Lookup

/-! # The reader by its registers

Where a reader stands says two things at once: which type is open, and whether its body has begun.
Kept in registers of their own, these two could contradict each other. Here a reader of registers
asks one question after the other about a line; it never comes to a contradiction, and it does what
the reader does. -/

namespace SchemaExplorer.Sdl

/-- The state of a reader in registers that know nothing of each other. -/
structure Registers where
  definitions : List TypeDefinition
  current : Option TypeDefinition
  inBody : Bool
  description : Option String
deriving DecidableEq, Repr

namespace Registers

def start : Registers :=
  { definitions := [], current := none, inBody := false, description := none }

def finish (s : Registers) : List TypeDefinition :=
  s.definitions ++ s.current.toList

/-- The types that are kept when another one begins. -/
def settled (s : Registers) : List TypeDefinition :=
  match s.current with
  | none => s.definitions
  | some d =>
    if s.inBody || d.kind.isSelfTerminating then s.definitions else s.definitions ++ [d]

def startType (s : Registers) (i : Intro) (cs : List Char) : Registers :=
  let d := Reader.introduced i cs s.description
  if d.kind.isSelfTerminating then
    { definitions := s.settled ++ [d], current := none, inBody := false, description := none }
  else
    { definitions := s.settled, current := some d, inBody := opensBrace cs, description := none }

def closeType (s : Registers) : Registers :=
  { definitions := s.finish, current := none, inBody := false, description := none }

def readMember (s : Registers) (cs : List Char) : Registers :=
  match s.current, member? cs with
  | some d, some m => { s with current := some (addMember d m s.description), description := none }
  | _, _ => s

/-- Reads a line that is neither a description nor an introduction. Its braces are looked at in a
fixed order: one that opens in a body belongs to a member, and counts before one that closes. -/
def readOther (s : Registers) (cs : List Char) : Registers :=
  if s.inBody && opensBrace cs then s.readMember cs
  else if opensBrace cs && s.current.isSome then { s with inBody := true }
  else if cs.contains '}' && s.current.isSome then s.closeType
  else if s.inBody then s.readMember cs
  else s

def readLine (s : Registers) (line : String) : Registers :=
  let cs := Text.trimChars line.toList
  match lineOf line with
  | .ignored => s
  | .description text => { s with description := some text }
  | .intro i => s.startType i cs
  | .other => s.readOther cs

def readLines (s : Registers) (lines : List String) : Registers :=
  lines.foldl readLine s

end Registers

/-! ### The types that are open -/

@[simp] theorem kind_addMember (d : TypeDefinition) (m : Member) (description : Option String) :
    (addMember d m description).kind = d.kind := by
  rw [addMember]
  split
  · rfl
  · split <;> rfl

/-- The type that is being read goes on behind the line that introduces it. -/
def Place.IsOpenEnded (p : Place) : Prop :=
  ∀ d ∈ p.type?, d.kind.isSelfTerminating = false

namespace Reader

theorem isOpenEnded_readLine {r : Reader} (h : r.place.IsOpenEnded) (line : String) :
    (r.readLine line).place.IsOpenEnded := by
  have houtside : Place.outside.IsOpenEnded := by simp [Place.IsOpenEnded, Place.type?]
  cases hline : lineOf line with
  | ignored => rwa [readLine_of_ignored hline]
  | description text => rwa [readLine_of_description hline]
  | intro i =>
    rw [readLine_of_intro hline, startType_eq]
    split
    · exact houtside
    · next hself =>
      intro d hd
      have hd : d = introduced i (Text.trimChars line.toList) r.description := by
        split at hd <;> exact (Option.some.inj hd).symm
      rw [hd]
      simpa [introduced, TypeDefinition.declare] using hself
  | other =>
    rw [readLine_of_other hline]
    rcases readOther_cases r (Text.trimChars line.toList) with hr | ⟨d, hp, hr⟩ | hr | ⟨d, m, hp, -, hr⟩
    · rwa [hr]
    · rw [hp] at h
      rw [hr]
      exact h
    · rw [hr]
      exact houtside
    · rw [hp] at h
      rw [hr]
      intro e he
      obtain rfl := Option.some.inj he
      rw [kind_addMember]
      exact h d rfl

/-! ### Registers of a reader -/

def registers (r : Reader) : Registers :=
  { definitions := r.definitions
    current := r.place.type?
    inBody := match r.place with
      | .body _ => true
      | _ => false
    description := r.description }

theorem finish_registers (r : Reader) : r.registers.finish = r.finish := rfl

/-- A register that is set without a type in the other is what no reader has. -/
theorem isSome_current_registers {r : Reader} (h : r.registers.inBody = true) :
    r.registers.current.isSome = true := by
  cases hp : r.place with
  | outside => simp [registers, hp] at h
  | header d => simp [registers, hp, Place.type?]
  | body d => simp [registers, hp, Place.type?]

theorem settled_registers {r : Reader} (h : r.place.IsOpenEnded) :
    r.registers.settled = r.settled := by
  cases hp : r.place with
  | outside => simp [Registers.settled, registers, settled, finish, hp, Place.type?]
  | header d =>
    have hd : d.kind.isSelfTerminating = false := h d (by simp [hp, Place.type?])
    simp [Registers.settled, registers, settled, finish, hp, Place.type?, hd]
  | body d => simp [Registers.settled, registers, settled, hp, Place.type?]

theorem startType_registers {r : Reader} (h : r.place.IsOpenEnded) (i : Intro) (cs : List Char) :
    r.registers.startType i cs = (r.startType i cs).registers := by
  have hkind : (introduced i cs r.description).kind = TypeKind.classify i.keyword i.name := rfl
  rw [startType_eq, Registers.startType, settled_registers h]
  simp only [show r.registers.description = r.description from rfl, hkind]
  split
  · rfl
  · by_cases hopen : opensBrace cs = true <;> simp [registers, hopen, Place.type?]

theorem readMember_registers {r : Reader} {d : TypeDefinition} (h : r.place = .body d)
    (cs : List Char) : r.registers.readMember cs = (r.readMember d cs).registers := by
  cases hm : member? cs <;> simp [Registers.readMember, readMember, registers, h, hm, Place.type?]

theorem readOther_registers (r : Reader) (cs : List Char) :
    r.registers.readOther cs = (r.readOther cs).registers := by
  cases hp : r.place with
  | outside =>
    simp [readOther_outside hp, Registers.readOther, registers, hp, Place.type?]
  | header d =>
    rw [readOther_header hp]
    by_cases hopen : opensBrace cs = true
    · simp [Registers.readOther, hopen, registers, hp, Place.type?]
    · by_cases hclose : '}' ∈ cs
      · have hclosing : isClosing cs = true := by simpa [isClosing, opensBrace, hclose] using hopen
        simp [Registers.readOther, hopen, hclose, hclosing, registers, hp, Place.type?, closeType,
          Registers.closeType, Registers.finish, finish]
      · have hclosing : isClosing cs = false := by simp [isClosing, hclose]
        simp [Registers.readOther, hopen, hclose, hclosing, registers, hp, Place.type?]
  | body d =>
    have hbody : r.registers.inBody = true := by simp [registers, hp]
    have hcurrent : r.registers.current.isSome = true := isSome_current_registers hbody
    rw [readOther_body hp]
    by_cases hopen : opensBrace cs = true
    · simp [Registers.readOther, hopen, hbody, isClosing_of_opensBrace hopen,
        readMember_registers hp]
    · by_cases hclose : '}' ∈ cs
      · have hclosing : isClosing cs = true := by simpa [isClosing, opensBrace, hclose] using hopen
        simp [Registers.readOther, hopen, hclose, hclosing, hcurrent]
        rfl
      · have hclosing : isClosing cs = false := by simp [isClosing, hclose]
        simp [Registers.readOther, hopen, hclose, hclosing, hbody, readMember_registers hp]

/-- One line takes the registers of a reader to those of the reader behind it. -/
theorem readLine_registers {r : Reader} (h : r.place.IsOpenEnded) (line : String) :
    r.registers.readLine line = (r.readLine line).registers := by
  cases hline : lineOf line with
  | ignored => simp [Registers.readLine, hline, readLine_of_ignored hline]
  | description text =>
    simp [Registers.readLine, hline, readLine_of_description hline, registers]
  | intro i =>
    rw [readLine_of_intro hline, ← startType_registers h]
    simp [Registers.readLine, hline]
  | other =>
    rw [readLine_of_other hline, ← readOther_registers]
    simp [Registers.readLine, hline]

theorem isOpenEnded_and_readLines_registers {r : Reader} (h : r.place.IsOpenEnded)
    (lines : List String) : (r.readLines lines).place.IsOpenEnded ∧
      r.registers.readLines lines = (r.readLines lines).registers := by
  induction lines generalizing r with
  | nil => exact ⟨h, rfl⟩
  | cons line lines ih =>
    obtain ⟨hends, hreads⟩ := ih (isOpenEnded_readLine h line)
    rw [← readLine_registers h] at hreads
    exact ⟨hends, hreads⟩

end Reader

/-! ### Whatever lines are read -/

/-- After any lines the registers agree with each other and with the reader, the type that is open
is of a kind that has a body, and all that was read is well formed. So the catalog of a text has,
as the operations of a kind, whatever type has their name; of several it is the last. -/
theorem isWellFormed_readLines :
    (∀ lines : List String,
      let s := Registers.start.readLines lines
      let r := Reader.start.readLines lines
      s = r.registers ∧ (s.inBody = true → s.current.isSome = true) ∧
        (∀ d ∈ s.current, d.kind.isSelfTerminating = false) ∧
        s.finish = r.finish ∧ ∀ d ∈ s.finish, d.IsWellFormed) ∧
    ∀ (text : String) (kind : OperationKind),
      let c := Catalog.ofSdl text
      c.rootOperation? kind = c.get? kind.rootTypeName ∧
        c.rootOperation? kind =
          ((parse text).filter fun d => d.name = kind.rootTypeName).getLast? := by
  constructor
  · intro lines s r
    have hstart : Reader.start.place.IsOpenEnded := by
      simp [Place.IsOpenEnded, Reader.start, Place.type?]
    obtain ⟨hends, hreads⟩ := Reader.isOpenEnded_and_readLines_registers hstart lines
    have hregisters : s = r.registers := hreads
    have hfinish : s.finish = r.finish := by rw [hregisters, Reader.finish_registers]
    refine ⟨hregisters, fun hbody => ?_, fun d hd => ?_, hfinish, fun d hd => ?_⟩
    · rw [hregisters] at hbody ⊢
      exact Reader.isSome_current_registers hbody
    · rw [hregisters] at hd
      exact hends d hd
    · rw [hfinish] at hd
      exact isWellFormed_of_mem_finish hd
  · intro text kind c
    have hroot : c.rootOperation? kind = c.get? kind.rootTypeName :=
      Catalog.rootOperation?_ofDefinitions (fun d hd => isWellFormed_of_mem_parse hd) kind
    exact ⟨hroot, hroot.trans (Catalog.get?_ofDefinitions _ _)⟩

/-- A scalar with the name of a root is that root, and goes on to a body. -/
example : (parse "scalar Query\n\x7b\n a: Int\n\x7d").map (fun d => (d.kind, d.fields.length)) =
    [(.query, 1)] := by
  decide +kernel

end SchemaExplorer.Sdl
