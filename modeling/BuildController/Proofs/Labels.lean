import BuildController.Label

/-! The grammar of names and labels. The checks find no problem with a text exactly if it belongs to
the grammar. -/
namespace BuildController

theorem Text.splitAt_eq (c : Char) (cs : List Char) : splitAt c cs = cs.splitOn c := by
  induction cs with
  | nil => rfl
  | cons d rest ih =>
    simp only [splitAt, ih, List.splitOn_cons_eq_if_modifyHead, beq_iff_eq]
    obtain ⟨part, parts, parted⟩ := List.exists_cons_of_ne_nil (List.splitOn_ne_nil c rest)
    rw [parted]
    rfl

theorem Text.splitAt_append_cons (c : Char) (cs ds : List Char) :
    splitAt c (cs ++ c :: ds) = splitAt c cs ++ splitAt c ds := by
  rw [splitAt_eq, splitAt_eq, splitAt_eq, List.splitOn_append_cons_self]

/-- The part after the last occurrence of a character ends as the text does. -/
theorem Text.splitAt_concat {c d : Char} (other : d ≠ c) (cs : List Char) :
    ∃ parts last, splitAt c (cs ++ [d]) = parts ++ [last ++ [d]] := by
  induction cs with
  | nil => exact ⟨[], [], by simp [splitAt, other]⟩
  | cons e cs ih =>
    obtain ⟨parts, last, parted⟩ := ih
    rw [List.cons_append, splitAt, parted]
    split
    · exact ⟨[] :: parts, last, rfl⟩
    · cases parts with
      | nil => exact ⟨[], e :: last, rfl⟩
      | cons part parts => exact ⟨(e :: part) :: parts, last, rfl⟩

theorem Text.not_mem_of_mem_splitAt {c : Char} {cs part : List Char}
    (member : part ∈ splitAt c cs) : c ∉ part := by
  induction cs generalizing part with
  | nil => simp [List.mem_singleton.mp member]
  | cons d rest ih =>
    obtain ⟨first, parts, parted⟩ := List.exists_cons_of_ne_nil (List.splitOn_ne_nil c rest)
    rw [← splitAt_eq] at parted
    rw [splitAt, parted] at member
    split at member
    · rcases List.mem_cons.mp member with rfl | later
      · exact List.not_mem_nil
      · exact ih (parted ▸ later)
    · next other =>
      rcases List.mem_cons.mp member with rfl | later
      · rw [List.mem_cons, not_or]
        exact ⟨Ne.symm other, ih (parted ▸ List.mem_cons_self)⟩
      · exact ih (parted ▸ List.mem_cons_of_mem _ later)

namespace Label

/-- Texts of characters of one class at both ends and of another class between. -/
inductive Bounded (edge inside : Char → Prop) : List Char → Prop
  | single (only : edge c) : Bounded edge inside [c]
  | between (first : edge c) (middle : ∀ d ∈ cs, inside d) (last : edge e) :
      Bounded edge inside (c :: (cs ++ [e]))

/-- A character of a name: a letter, a digit or one of three signs. -/
def NameChar (c : Char) : Prop := c.isAlphanum = true ∨ c = '-' ∨ c = '_' ∨ c = '.'

def LowerAlnum (c : Char) : Prop := ('a' ≤ c ∧ c ≤ 'z') ∨ ('0' ≤ c ∧ c ≤ '9')

/-- At most 63 name characters with letters or digits at both ends. -/
structure NamePart (cs : List Char) : Prop where
  shape : Bounded (fun c => c.isAlphanum = true) NameChar cs
  length : cs.length ≤ 63

def Value (cs : List Char) : Prop := cs = [] ∨ NamePart cs

/-- Lower case letters, digits and dashes, and no dash at an end. -/
def DomainLabel (cs : List Char) : Prop :=
  Bounded LowerAlnum (fun c => LowerAlnum c ∨ c = '-') cs

/-- Labels with points between them. -/
inductive DomainLabels : List Char → Prop
  | last (label : DomainLabel cs) : DomainLabels cs
  | before (label : DomainLabel cs) (rest : DomainLabels ds) : DomainLabels (cs ++ '.' :: ds)

/-- Labels with points between them, at most 253 characters in all. -/
structure Subdomain (cs : List Char) : Prop where
  shape : DomainLabels cs
  length : cs.length ≤ 253

/-- A name part, after a subdomain and a slash or without them. -/
inductive QualifiedName : List Char → Prop
  | plain (name : NamePart cs) : QualifiedName cs
  | within (domain : Subdomain ds) (name : NamePart cs) : QualifiedName (ds ++ '/' :: cs)

theorem Bounded.all {edge inside : Char → Prop} (bounded : Bounded edge inside cs)
    (narrow : ∀ c, edge c → inside c) : ∀ c ∈ cs, inside c := by
  cases bounded with
  | single only => simpa using narrow _ only
  | between first middle last =>
    simp only [List.mem_cons, List.mem_append, List.not_mem_nil, or_false]
    rintro c (rfl | member | rfl)
    · exact narrow c first
    · exact middle c member
    · exact narrow c last

theorem bounded_iff {edge inside : Char → Bool} {Edge Inside : Char → Prop}
    (edges : ∀ c, edge c = true ↔ Edge c) (insides : ∀ c, inside c = true ↔ Inside c)
    (narrow : ∀ c, Edge c → Inside c) : bounded edge inside cs = true ↔ Bounded Edge Inside cs := by
  constructor
  · intro holds
    cases cs with
    | nil => cases holds
    | cons c rest =>
      obtain rfl | ⟨middle, e, same⟩ := List.eq_nil_or_concat rest
      · have only : edge c = true := by
          simp only [bounded, List.head?_cons, List.getLast?_singleton, Bool.and_eq_true] at holds
          exact holds.1.1
        exact .single ((edges c).mp only)
      · rw [List.concat_eq_append] at same
        subst same
        have parts : (edge c = true ∧ edge e = true) ∧
            (c :: (middle ++ [e])).all inside = true := by
          simpa [bounded, List.getLast?_cons] using holds
        obtain ⟨⟨first, last⟩, inner⟩ := parts
        refine .between ((edges c).mp first) (fun d member => ?_) ((edges e).mp last)
        exact (insides d).mp (List.all_eq_true.mp inner d (by simp [member]))
  · intro holds
    have inner : cs.all inside = true :=
      List.all_eq_true.mpr fun c member => (insides c).mpr (holds.all narrow c member)
    cases holds with
    | single only =>
      have edge := (edges _).mpr only
      simpa [bounded, edge] using inner
    | between first middle last =>
      have edge := (edges _).mpr first
      have edge' := (edges _).mpr last
      simpa [bounded, List.getLast?_cons, edge, edge'] using inner

theorem isLowerAlnum_iff : isLowerAlnum c = true ↔ LowerAlnum c := by
  simp [isLowerAlnum, LowerAlnum, Text.isDigit]

theorem isNameChar_iff : isNameChar c = true ↔ NameChar c := by
  simp [isNameChar, isAlnum, NameChar, or_assoc]

theorem isName_iff :
    isName cs = true ↔ Bounded (fun c => c.isAlphanum = true) NameChar cs :=
  bounded_iff (fun _ => Iff.rfl) (fun _ => isNameChar_iff) fun _ => .inl

theorem isDomainLabel_iff : isDomainLabel cs = true ↔ DomainLabel cs :=
  bounded_iff (fun _ => isLowerAlnum_iff) (fun _ => by simp [isLowerAlnum_iff]) fun _ => .inl

instance : DecidablePred NameChar := fun _ => decidable_of_iff _ isNameChar_iff

instance : DecidablePred LowerAlnum := fun _ => decidable_of_iff _ isLowerAlnum_iff

theorem LowerAlnum.isAlphanum (char : LowerAlnum c) : c.isAlphanum = true := by
  refine Bool.or_eq_true_iff.mpr (char.imp (fun letter => ?_) fun digit => ?_)
  · have lower : c.isLower = true :=
      Bool.and_eq_true_iff.mpr ⟨decide_eq_true letter.1, decide_eq_true letter.2⟩
    exact Bool.or_eq_true_iff.mpr (.inr lower)
  · exact Bool.and_eq_true_iff.mpr ⟨decide_eq_true digit.1, decide_eq_true digit.2⟩

theorem DomainLabel.chars (label : DomainLabel cs) :
    ∀ c ∈ cs, LowerAlnum c ∨ c = '-' := Bounded.all label fun _ => .inl

theorem DomainLabels.chars (labels : DomainLabels cs) : ∀ c ∈ cs, NameChar c := by
  have plain {cs : List Char} (label : DomainLabel cs) : ∀ c ∈ cs, NameChar c :=
    fun c member => (label.chars c member).imp LowerAlnum.isAlphanum .inl
  induction labels with
  | last label => exact plain label
  | before label rest ih =>
    simp only [List.mem_append, List.mem_cons]
    rintro c (member | rfl | member)
    · exact plain label c member
    · decide
    · exact ih c member

/-- All characters of names and labels have one byte. -/
theorem NameChar.utf8Size_eq (char : NameChar c) : c.utf8Size = 1 := by
  rw [Char.utf8Size_eq_one_iff]
  obtain alnum | rfl | rfl | rfl := char
  · have range : (65 ≤ c.val ∧ c.val ≤ 90 ∨ 97 ≤ c.val ∧ c.val ≤ 122) ∨
        48 ≤ c.val ∧ c.val ≤ 57 := by
      change (decide (65 ≤ c.val ∧ c.val ≤ 90) || (decide (97 ≤ c.val) && decide (c.val ≤ 122)) ||
        (decide (48 ≤ c.val) && decide (c.val ≤ 57))) = true at alnum
      simpa using alnum
    simp only [UInt32.le_iff_toNat_le, UInt32.reduceToNat] at range ⊢
    omega
  all_goals decide

theorem byteLength_eq (chars : ∀ c ∈ cs, NameChar c) : byteLength cs = cs.length := by
  have sums (cs : List Char) (n : Nat) (chars : ∀ c ∈ cs, NameChar c) :
      cs.foldl (fun n c => n + c.utf8Size) n = n + cs.length := by
    induction cs generalizing n with
    | nil => rfl
    | cons c rest ih =>
      obtain ⟨first, later⟩ := List.forall_mem_cons.mp chars
      rw [List.foldl_cons, first.utf8Size_eq, ih _ later, List.length_cons]
      omega
  rw [byteLength, sums cs 0 chars, Nat.zero_add]

/-- No part between points contains one, so that a text has one way to be split at its points. -/
theorem isSubdomain_iff : isSubdomain cs = true ↔ DomainLabels cs := by
  rw [isSubdomain, Text.splitAt_eq, List.all_eq_true]
  constructor
  · have joined (labels : List (List Char)) (nonempty : labels ≠ [])
        (valid : ∀ label ∈ labels, isDomainLabel label = true) :
        DomainLabels (['.'].intercalate labels) := by
      induction labels with
      | nil => exact (nonempty rfl).elim
      | cons label rest ih =>
        obtain ⟨first, later⟩ := List.forall_mem_cons.mp valid
        cases rest with
        | nil => simpa using .last (isDomainLabel_iff.mp first)
        | cons next rest =>
          simpa using .before (isDomainLabel_iff.mp first) (ih (by simp) later)
    intro valid
    have whole : ['.'].intercalate (cs.splitOn '.') = cs := List.intercalate_splitOn _
    exact whole ▸ joined _ (List.splitOn_ne_nil _ _) valid
  · have pointless {cs : List Char} (label : DomainLabel cs) : '.' ∉ cs :=
      fun point => absurd (label.chars '.' point) (by decide)
    intro labels
    induction labels with
    | last label =>
      rw [List.splitOn_eq_singleton (pointless label)]
      simpa using isDomainLabel_iff.mpr label
    | before label rest ih =>
      rw [List.splitOn_append_cons_self_of_not_mem (pointless label)]
      exact List.forall_mem_cons.mpr ⟨isDomainLabel_iff.mpr label, ih⟩

theorem problemIf_eq_nil : problemIf condition problem = [] ↔ condition = false := by
  cases condition <;> simp [problemIf]

/-- A limit on the bytes of a text of name characters is one on its characters. -/
theorem tooLong_eq_nil {limit : Nat} (chars : ∀ c ∈ cs, NameChar c) :
    problemIf (limit < byteLength cs) problem = [] ↔ cs.length ≤ limit := by
  rw [problemIf_eq_nil, byteLength_eq chars, decide_eq_false_iff_not, Nat.not_lt]

theorem malformed_eq_nil : problemIf (!valid) problem = [] ↔ valid = true := by
  rw [problemIf_eq_nil, Bool.not_eq_false']

theorem NamePart.chars (name : NamePart cs) : ∀ c ∈ cs, NameChar c :=
  name.shape.all fun _ => .inl

theorem NamePart.ne_nil (name : NamePart cs) : cs ≠ [] := by
  rintro rfl
  nomatch name.shape

theorem DomainLabels.ne_nil (labels : DomainLabels cs) : cs ≠ [] := by
  cases labels with
  | last label =>
    rintro rfl
    nomatch label
  | before label rest => simp

theorem Subdomain.chars (domain : Subdomain cs) : ∀ c ∈ cs, NameChar c := domain.shape.chars

theorem valueProblems_eq_nil : valueProblems cs = [] ↔ Value cs := by
  rw [valueProblems, List.append_eq_nil_iff, malformed_eq_nil, Bool.or_eq_true, List.isEmpty_iff,
    isName_iff, and_comm]
  constructor
  · rintro ⟨rfl | shape, short⟩
    · exact .inl rfl
    · exact .inr ⟨shape, (tooLong_eq_nil (shape.all fun _ => .inl)).mp short⟩
  · rintro (rfl | name)
    · exact ⟨.inl rfl, rfl⟩
    · exact ⟨.inr name.shape, (tooLong_eq_nil name.chars).mpr name.length⟩

theorem namePartProblems_eq_nil : namePartProblems cs = [] ↔ NamePart cs := by
  rw [namePartProblems, List.append_eq_nil_iff, malformed_eq_nil, isName_iff, and_comm]
  constructor
  · rintro ⟨shape, short⟩
    cases cs with
    | nil => cases short
    | cons c rest => exact ⟨shape, (tooLong_eq_nil (shape.all fun _ => .inl)).mp short⟩
  · intro name
    rw [List.isEmpty_eq_false_iff.mpr name.ne_nil]
    exact ⟨name.shape, (tooLong_eq_nil name.chars).mpr name.length⟩

theorem subdomainProblems_eq_nil : subdomainProblems cs = [] ↔ Subdomain cs := by
  rw [subdomainProblems, List.append_eq_nil_iff, malformed_eq_nil, isSubdomain_iff, and_comm]
  constructor
  · rintro ⟨shape, short⟩
    exact ⟨shape, (tooLong_eq_nil shape.chars).mp short⟩
  · intro domain
    exact ⟨domain.shape, (tooLong_eq_nil domain.chars).mpr domain.length⟩

/-- Neither part contains a slash, so the one between them is the only one. -/
theorem nameProblems_eq_nil : nameProblems cs = [] ↔ QualifiedName cs := by
  rw [nameProblems, Text.splitAt_eq]
  constructor
  · intro fine
    have joined : ['/'].intercalate (cs.splitOn '/') = cs := List.intercalate_splitOn _
    generalize cs.splitOn '/' = parts at fine joined
    subst joined
    match parts, fine with
    | [name], fine => simpa using .plain (namePartProblems_eq_nil.mp fine)
    | [domain, name], fine =>
      obtain ⟨first, last⟩ := List.append_eq_nil_iff.mp fine
      cases domain with
      | nil => cases first
      | cons c rest =>
        have domain := subdomainProblems_eq_nil.mp (List.map_eq_nil_iff.mp first)
        simpa using .within domain (namePartProblems_eq_nil.mp last)
  · have slashless {cs : List Char} (chars : ∀ c ∈ cs, NameChar c) : '/' ∉ cs :=
      fun slash => absurd (chars '/' slash) (by decide)
    rintro (name | ⟨domain, name⟩)
    · rw [List.splitOn_eq_singleton (slashless name.chars)]
      exact namePartProblems_eq_nil.mpr name
    · rw [List.splitOn_append_cons_self_of_not_mem (slashless domain.chars),
        List.splitOn_eq_singleton (slashless name.chars)]
      refine List.append_eq_nil_iff.mpr ⟨?_, namePartProblems_eq_nil.mpr name⟩
      rw [List.isEmpty_eq_false_iff.mpr domain.shape.ne_nil, subdomainProblems_eq_nil.mpr domain]
      rfl

end Label

end BuildController
