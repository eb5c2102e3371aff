import BuildController.Json.Tree
import BuildController.Proofs.Scanning

/-! A JSON value is read back from its text. Only a value without text, which is an ill-formed one
or one with such a part, is not. -/
namespace BuildController.Json

mutual

/-- Every part of the value has a text. -/
def WellFormed : Json → Prop
  | illFormed => False
  | array items => WellFormedItems items
  | object members => WellFormedMembers members
  | _ => True

def WellFormedItems : List Json → Prop
  | [] => True
  | item :: rest => WellFormed item ∧ WellFormedItems rest

def WellFormedMembers : List (String × Json) → Prop
  | [] => True
  | (_, value) :: rest => WellFormed value ∧ WellFormedMembers rest

end

theorem wellFormedItems_iff {items : List Json} :
    WellFormedItems items ↔ ∀ item ∈ items, WellFormed item := by
  induction items with
  | nil => simp [WellFormedItems]
  | cons item rest ih => simp [WellFormedItems, ih]

theorem wellFormedMembers_iff {members : List (String × Json)} :
    WellFormedMembers members ↔ ∀ m ∈ members, WellFormed m.2 := by
  induction members with
  | nil => simp [WellFormedMembers]
  | cons m rest ih => simp only [WellFormedMembers, ih, List.forall_mem_cons]

theorem foldlM_append_some {f : σ → α → Option σ} {as : List α} {s t : σ}
    (first : as.foldlM f s = some t) (bs : List α) : (as ++ bs).foldlM f s = bs.foldlM f t := by
  rw [List.foldlM_append, first, Option.bind_eq_bind, Option.bind_some]

/-- The members read before, as the builder keeps them. -/
def named (members : List (String × Json)) : List (Option String × Json) :=
  (members.map fun m => (some m.1, m.2)).reverse

theorem named_concat (members : List (String × Json)) (name : String) (value : Json) :
    (some name, value) :: named members = named (members ++ [(name, value)]) := by
  simp [named]

theorem ofMembers_named (members : List (String × Json)) :
    ofMembers (named members) = object members := by
  have kept : (members.map fun m => (some m.1, m.2)).mapM
      (fun m : Option String × Json => m.1.map fun name => (name, m.2)) = some members := by
    induction members with
    | nil => rfl
    | cons m rest ih => simp [ih]
  rw [ofMembers, named, List.reverse_reverse, kept]

/-- After an opening bracket, what begins an item opens the array. -/
theorem step_item {items : List Json} (some_items : items ≠ []) :
    ∃ token rest, itemTokens items = token :: rest
      ∧ ∀ stack, Builder.step (stack, .item) token
        = Builder.step (.items [] :: stack, .value) token := by
  have begins (value : Json) : ∃ token rest, tokens value = token :: rest
      ∧ ∀ stack, Builder.step (stack, .item) token
        = Builder.step (.items [] :: stack, .value) token := by
    cases value <;> exact ⟨_, _, rfl, fun _ => rfl⟩
  match items with
  | [item] => exact begins item
  | item :: next :: later =>
    obtain ⟨token, rest, first, opens⟩ := begins item
    exact ⟨token, rest ++ .comma :: itemTokens (next :: later), by simp [itemTokens, first], opens⟩

mutual

theorem build_tokens : ∀ value : Json, WellFormed value → ∀ stack,
    (tokens value).foldlM Builder.step (stack, .value) = some (stack, .follow value)
  | null, _, stack => rfl
  | bool _, _, stack => rfl
  | number _, _, stack => rfl
  | string _, _, stack => rfl
  | array items, whole, stack => by
    have inside := build_items items whole
    by_cases empty : items = []
    · rw [empty]; rfl
    · obtain ⟨token, later, first, opens⟩ := step_item empty
      have opened := inside empty [] stack
      simp only [first, List.cons_append, List.foldlM_cons] at opened
      rw [← opens] at opened
      simp only [tokens, first]
      exact opened
  | object members, whole, stack => by
    have inside := build_members members whole
    by_cases empty : members = []
    · rw [empty]; rfl
    · exact inside empty [] stack

theorem build_items : ∀ items : List Json, WellFormedItems items → items ≠ [] → ∀ before stack,
    (itemTokens items ++ [Token.closeArray]).foldlM Builder.step (.items before :: stack, .value)
      = some (stack, .follow (array (before.reverse ++ items)))
  | [item], whole, _, before, stack => by
    simp [itemTokens, build_tokens item whole.1, Builder.step]
  | item :: next :: rest, whole, _, before, stack => by
    have later := build_items (next :: rest) whole.2 (List.cons_ne_nil _ _) (item :: before) stack
    rw [List.reverse_cons, List.append_assoc, List.singleton_append] at later
    have read := foldlM_append_some (build_tokens item whole.1 (.items before :: stack))
      (Token.comma :: (itemTokens (next :: rest) ++ [Token.closeArray]))
    simp only [itemTokens, List.cons_append, List.append_assoc]
    exact read.trans later

theorem build_members : ∀ members : List (String × Json), WellFormedMembers members →
    members ≠ [] → ∀ before stack,
    (memberTokens members ++ [Token.closeObject]).foldlM Builder.step (stack, .name (named before))
      = some (stack, .follow (object (before ++ members)))
  | [(name, value)], whole, _, before, stack => by
    simp [memberTokens, build_tokens value whole.1, Builder.step, named_concat, ofMembers_named]
  | (name, value) :: next :: rest, whole, _, before, stack => by
    have later := build_members (next :: rest) whole.2 (List.cons_ne_nil _ _)
      (before ++ [(name, value)]) stack
    rw [List.append_assoc, List.singleton_append, ← named_concat] at later
    have read := foldlM_append_some
      (build_tokens value whole.1 (.member (named before) (some name) :: stack))
      (Token.comma :: (memberTokens (next :: rest) ++ [Token.closeObject]))
    simp only [memberTokens, List.cons_append, List.append_assoc]
    exact read.trans later

end

theorem parse?_render {value : Json} (whole : WellFormed value) :
    parse? (render value) = some value := by
  simp only [parse?, render, String.toList_ofList, tokens?_spell, Option.bind_some, ofTokens?,
    build_tokens value whole []]

end BuildController.Json
