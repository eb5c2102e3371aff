import BuildController.Json.Printer
import BuildController.Json.Token
import BuildController.Proofs.Numerals

/-! The scanner undoes the printer: what is written for a JSON value scans to the tokens of that
value. A word or a numeral is still under way after its last character, so a state of the scanner
counts as the tokens it will have given once the token under way ends. -/
namespace BuildController.Json

open Text

theorem spanDigits_digits {digits rest : List Char} (all : ∀ c ∈ digits, isDigit c = true)
    (ends : ∀ c, rest.head? = some c → isDigit c = false) :
    spanDigits (digits ++ rest) = (digits, rest) := by
  have taken := takeWhile_digits all ends
  have split := List.takeWhile_append_dropWhile (p := isDigit) (l := digits ++ rest)
  rw [taken] at split
  rw [spanDigits, taken, List.append_cancel_left split]

theorem natural?_toDigits (n : Nat) : natural? (Nat.toDigits 10 n) = some n := by
  have all : (Nat.toDigits 10 n).all isDigit = true :=
    List.all_eq_true.mpr fun _ => isDigit_of_mem_toDigits
  simp [natural?, Nat.toDigits_ne_nil, all]

theorem exponent?_spellInt (v : Int) : exponent? (spellInt v) = some v := by
  cases v with
  | ofNat n =>
    obtain ⟨c, rest, spelled, digit⟩ := toDigits_cons n
    have read := natural?_toDigits n
    simp only [spellInt]
    rw [spelled] at read ⊢
    unfold exponent?
    split
    · next same => cases same; cases digit
    · next same => cases same; cases digit
    · rw [read]; rfl
  | negSucc n =>
    simp only [spellInt, exponent?, natural?_toDigits]
    rfl

/-- A numeral is read as its whole digits and what follows them, since these begin with a zero only
if that is all of them. -/
theorem ofSpelling?_unsigned (n : Nat) {rest : List Char}
    (ends : ∀ c, rest.head? = some c → isDigit c = false) :
    Number.ofSpelling? (Nat.toDigits 10 n ++ rest) = afterWhole? false n rest
      ∧ Number.ofSpelling? ('-' :: (Nat.toDigits 10 n ++ rest)) = afterWhole? true n rest := by
  have spanned : spanDigits (Nat.toDigits 10 n ++ rest) = (Nat.toDigits 10 n, rest) :=
    spanDigits_digits (fun _ => isDigit_of_mem_toDigits) ends
  have value := valueOfDigits_toDigits n
  have noZero : ∀ c later, Nat.toDigits 10 n ≠ '0' :: c :: later := by
    intro c later spelled
    rcases Nat.eq_zero_or_pos n with rfl | positive
    · cases spelled
    · obtain ⟨d, digits, first, nonzero⟩ := toDigits_positive n positive
      rw [first] at spelled
      cases spelled
      contradiction
  obtain ⟨c, digits, spelled, digit⟩ := toDigits_cons n
  have unsigned : ∀ later, c :: digits ++ rest = '-' :: later → False := by
    intro later same
    cases same
    cases digit
  rw [spelled] at spanned value noZero ⊢
  constructor
  · simp only [Number.ofSpelling?, spanned, value]
  · simp only [Number.ofSpelling?, spanned, value]

theorem ofSpelling?_spelling (number : Number) :
    Number.ofSpelling? (Number.spelling number) = some number := by
  have atEnd : ∀ c, ([] : List Char).head? = some c → isDigit c = false :=
    fun _ none => nomatch none
  cases number with
  | integer v =>
    cases v with
    | ofNat n =>
      have read := (ofSpelling?_unsigned n atEnd).1
      rw [List.append_nil] at read
      exact read
    | negSucc n =>
      have read := (ofSpelling?_unsigned (n + 1) atEnd).2
      rw [List.append_nil] at read
      exact read
  | fraction negative digits exponent =>
    have atExponent : ∀ c, ('e' :: spellInt exponent).head? = some c → isDigit c = false := by
      rintro c ⟨⟩
      rfl
    have read := ofSpelling?_unsigned digits atExponent
    cases negative with
    | false => simp [Number.spelling, read.1, afterWhole?, exponent?_spellInt]
    | true => simp [Number.spelling, read.2, afterWhole?, exponent?_spellInt]

theorem isNumeral_of_mem_spelling {number : Number} (member : c ∈ Number.spelling number) :
    isNumeral c = true := by
  have digits {n : Nat} {c : Char} (member : c ∈ Nat.toDigits 10 n) : isNumeral c = true := by
    simp [isNumeral, isDigit_of_mem_toDigits member]
  have integers {v : Int} {c : Char} (member : c ∈ spellInt v) : isNumeral c = true := by
    cases v with
    | ofNat n => exact digits member
    | negSucc n =>
      rcases List.mem_cons.mp member with rfl | member
      · rfl
      · exact digits member
  cases number with
  | integer v => exact integers member
  | fraction negative n exponent =>
    simp only [Number.spelling, List.mem_append, List.mem_singleton] at member
    rcases member with ((sign | member) | rfl) | member
    · cases negative <;> simp_all [isNumeral]
    · exact digits member
    · rfl
    · exact integers member

/-- A numeral begins with a digit or a minus sign. -/
theorem spelling_cons (number : Number) : ∃ c rest, Number.spelling number = c :: rest
    ∧ (isDigit c || c = '-') = true := by
  have digits (n : Nat) (later : List Char) : ∃ c rest, Nat.toDigits 10 n ++ later = c :: rest
      ∧ (isDigit c || c = '-') = true := by
    obtain ⟨c, rest, spelled, digit⟩ := toDigits_cons n
    exact ⟨c, rest ++ later, by rw [spelled, List.cons_append], by rw [digit, Bool.true_or]⟩
  cases number with
  | integer v =>
    cases v with
    | ofNat n => simpa [Number.spelling, spellInt] using digits n []
    | negSucc n => exact ⟨'-', _, rfl, rfl⟩
  | fraction negative n exponent =>
    cases negative with
    | true => exact ⟨'-', _, rfl, rfl⟩
    | false => simpa [Number.spelling] using digits n _

theorem foldlM_numeral (done : List Token) {rest : List Char}
    (all : ∀ c ∈ rest, isNumeral c = true) : ∀ spelling,
    rest.foldlM Scan.step (done, .numeral spelling)
      = some (done, .numeral (rest.reverse ++ spelling)) := by
  induction rest with
  | nil => intro spelling; rfl
  | cons c rest ih =>
    intro spelling
    have continued : isNumeral c = true := all c List.mem_cons_self
    simp only [List.foldlM_cons, Scan.step, continued, if_true, Option.bind_eq_bind,
      Option.bind_some, ih (fun d member => all d (List.mem_cons_of_mem _ member)),
      List.reverse_cons, List.append_assoc, List.singleton_append]

theorem start_numeral (done : List Token) (first : (isDigit c || c = '-') = true) :
    Scan.start done c = some (done, .numeral [c]) := by
  have code : c.toNat = 45 ∨ (48 ≤ c.toNat ∧ c.toNat ≤ 57) := by
    simp only [isDigit, Bool.or_eq_true, Bool.and_eq_true, decide_eq_true_eq, Char.le_def,
      UInt32.le_iff_toNat_le] at first
    rcases first with digit | rfl
    · exact .inr digit
    · exact .inl rfl
  have other {d : Char} (far : d.toNat < 45 ∨ 57 < d.toNat) : c ≠ d := by
    rintro rfl
    omega
  have noSpace : isSpace c = false := by
    simp [isSpace, other (d := ' ') (by decide), other (d := '\t') (by decide),
      other (d := '\n') (by decide), other (d := '\r') (by decide)]
  have noLetter : isLetter c = false := by
    have least : 'a'.val.toNat = 97 := rfl
    simp only [isLetter, Bool.and_eq_false_iff, decide_eq_false_iff_not, Char.le_def,
      UInt32.le_iff_toNat_le, least]
    simp only [Char.toNat] at code
    omega
  simp only [Scan.start, noSpace, noLetter, first, if_true, Bool.false_eq_true, if_false]

/-- What scanning the spelling of a number leaves: the numeral is under way. -/
theorem foldlM_spelling (done : List Token) (number : Number) :
    (Number.spelling number).foldlM Scan.step (done, .between)
      = some (done, .numeral (Number.spelling number).reverse) := by
  obtain ⟨c, rest, spelled, first⟩ := spelling_cons number
  have all : ∀ d ∈ rest, isNumeral d = true := fun d member =>
    isNumeral_of_mem_spelling (by rw [spelled]; exact List.mem_cons_of_mem _ member)
  simp only [spelled, List.foldlM_cons, Scan.step, start_numeral done first, Option.bind_eq_bind,
    Option.bind_some, foldlM_numeral done all, List.reverse_cons]

theorem paddedHex_control : ∀ n < 0x20,
    paddedHex 4 n = ['0', '0', hexDigit (n / 16), hexDigit (n % 16)] ∧
      hexValue? (hexDigit (n / 16)) = some (n / 16) ∧
      hexValue? (hexDigit (n % 16)) = some (n % 16) := by
  decide

/-- An escape stands for the character it was written for. -/
theorem foldlM_escape (done : List Token) (letters : List Char) (c : Char) :
    (escape c).foldlM Scan.step (done, .quoted { letters })
      = some (done, .quoted { letters := c :: letters }) := by
  unfold escape
  iterate 7
    split
    · next same => rw [same]; rfl
  split
  · next control =>
    obtain ⟨spelled, high, low⟩ := paddedHex_control c.toNat control
    have zero : hexValue? '0' = some 0 := rfl
    have value : c.toNat / 16 * 16 + c.toNat % 16 = c.toNat := Nat.div_add_mod' _ _
    have noHigh : ¬0xD800 ≤ c.toNat := by omega
    have noLow : ¬0xDC00 ≤ c.toNat := by omega
    simp [spelled, Scan.step, zero, high, low, Quotation.pushUnit, value, noHigh, noLow]
  · next noQuote noBackslash _ _ _ _ _ printable =>
    simp [Scan.step, noQuote, noBackslash, printable, Quotation.push]

theorem foldlM_letters (done : List Token) (cs : List Char) : ∀ letters,
    (cs.flatMap escape).foldlM Scan.step (done, .quoted { letters })
      = some (done, .quoted { letters := cs.reverse ++ letters }) := by
  induction cs with
  | nil => intro letters; rfl
  | cons c cs ih =>
    intro letters
    simp only [List.flatMap_cons, List.foldlM_append, foldlM_escape, Option.bind_eq_bind,
      Option.bind_some, ih, List.reverse_cons, List.append_assoc, List.singleton_append]

theorem foldlM_quote (done : List Token) (s : String) :
    (quote s).foldlM Scan.step (done, .between) = some (.string (some s) :: done, .between) := by
  have opened : Scan.step (done, .between) '\x22' = some (done, .quoted {}) := rfl
  have closed (text : Quotation) : Scan.step (done, .quoted text) '\x22'
      = some (.string text.text? :: done, .between) := rfl
  simp [quote, opened, closed, foldlM_letters, Quotation.text?]

/-- The tokens that the scanner has given, last first, once the token under way ends. -/
def Scan.Ends (state : List Token × Scan) (tokens : List Token) : Prop :=
  ∃ ended, state.2.finish = some ended ∧ ended ++ state.1 = tokens

theorem Scan.ends_between (done : List Token) : Ends (done, .between) done := ⟨[], rfl, rfl⟩

/-- What is neither a letter nor part of a numeral ends the token under way. -/
theorem Scan.Ends.step {state : List Token × Scan} (ends : Scan.Ends state tokens)
    (noLetter : isLetter c = false) (noNumeral : isNumeral c = false) :
    Scan.step state c = Scan.start tokens c := by
  obtain ⟨done, scan⟩ := state
  obtain ⟨ended, finished, rfl⟩ := ends
  cases scan with
  | between =>
    cases finished
    rfl
  | word letters =>
    simp only at finished
    simp only [Scan.step, noLetter, Bool.false_eq_true, if_false, finished, Option.bind_some]
  | numeral spelling =>
    simp only at finished
    simp only [Scan.step, noNumeral, Bool.false_eq_true, if_false, finished, Option.bind_some]
  | quoted => cases finished
  | escaped => cases finished
  | hexadecimal => cases finished

mutual

/-- The tokens of a value in the order of the text. -/
def tokens : Json → List Token
  | null | illFormed => [.scalar null]
  | bool value => [.scalar (bool value)]
  | number value => [.scalar (number value)]
  | string text => [.string (some text)]
  | array items => .openArray :: (itemTokens items ++ [.closeArray])
  | object members => .openObject :: (memberTokens members ++ [.closeObject])

def itemTokens : List Json → List Token
  | [] => []
  | [item] => tokens item
  | item :: rest => tokens item ++ .comma :: itemTokens rest

def memberTokens : List (String × Json) → List Token
  | [] => []
  | [(name, value)] => .string (some name) :: .colon :: tokens value
  | (name, value) :: rest =>
    .string (some name) :: .colon :: (tokens value ++ .comma :: memberTokens rest)

end

/-- The text scans to the tokens, whatever tokens come before. -/
def ScansTo (cs : List Char) (tokens : List Token) : Prop :=
  ∀ done, ∃ state, cs.foldlM Scan.step (done, .between) = some state
    ∧ Scan.Ends state (tokens.reverse ++ done)

theorem ScansTo.nil : ScansTo [] [] := fun done => ⟨_, rfl, Scan.ends_between done⟩

/-- Two texts with a punctuation mark between them. -/
theorem ScansTo.append (first : ScansTo cs before) (later : ScansTo ds after)
    (noLetter : isLetter c = false) (noNumeral : isNumeral c = false)
    (mark : ∀ done, Scan.start done c = some (token :: done, .between)) :
    ScansTo (cs ++ c :: ds) (before ++ token :: after) := by
  intro done
  obtain ⟨state, scanned, ends⟩ := first done
  obtain ⟨last, rest, closed⟩ := later (token :: (before.reverse ++ done))
  refine ⟨last, ?_, by simpa using closed⟩
  simp only [List.foldlM_append, scanned, List.foldlM_cons, Option.bind_eq_bind, Option.bind_some,
    ends.step noLetter noNumeral, mark, rest]

theorem scansTo_comma (first : ScansTo cs before) (later : ScansTo ds after) :
    ScansTo (cs ++ ',' :: ds) (before ++ .comma :: after) :=
  first.append later rfl rfl fun _ => rfl

theorem scansTo_colon (name : String) (later : ScansTo cs after) :
    ScansTo (quote name ++ ':' :: cs) (.string (some name) :: .colon :: after) := by
  have first : ScansTo (quote name) [.string (some name)] := fun done =>
    ⟨_, foldlM_quote done name, Scan.ends_between _⟩
  exact first.append later rfl rfl fun _ => rfl

theorem scansTo_brackets (inside : ScansTo cs items) :
    ScansTo ('[' :: (cs ++ [']'])) (.openArray :: (items ++ [.closeArray])) :=
  .append .nil (inside.append .nil rfl rfl fun _ => rfl) rfl rfl fun _ => rfl

theorem scansTo_braces (inside : ScansTo cs members) :
    ScansTo ('\x7b' :: (cs ++ ['\x7d'])) (.openObject :: (members ++ [.closeObject])) :=
  .append .nil (inside.append .nil rfl rfl fun _ => rfl) rfl rfl fun _ => rfl

mutual

theorem scansTo_spell : ∀ value : Json, ScansTo (spell value) (tokens value)
  | null | illFormed => fun done => ⟨(done, .word ['l', 'l', 'u', 'n']), rfl, _, rfl, rfl⟩
  | bool true => fun done => ⟨(done, .word ['e', 'u', 'r', 't']), rfl, _, rfl, rfl⟩
  | bool false => fun done => ⟨(done, .word ['e', 's', 'l', 'a', 'f']), rfl, _, rfl, rfl⟩
  | number value => fun done => by
    refine ⟨_, foldlM_spelling done value, [.scalar (number value)], ?_, rfl⟩
    simp [Scan.finish, ofSpelling?_spelling]
  | string text => fun done => ⟨_, foldlM_quote done text, Scan.ends_between _⟩
  | array items => scansTo_brackets (scansTo_items items)
  | object members => scansTo_braces (scansTo_members members)

theorem scansTo_items : ∀ items : List Json, ScansTo (spellItems items) (itemTokens items)
  | [] => .nil
  | [item] => scansTo_spell item
  | item :: next :: rest => scansTo_comma (scansTo_spell item) (scansTo_items (next :: rest))

theorem scansTo_members : ∀ members : List (String × Json),
    ScansTo (spellMembers members) (memberTokens members)
  | [] => .nil
  | [(name, value)] => scansTo_colon name (scansTo_spell value)
  | (name, value) :: next :: rest =>
    scansTo_colon name (scansTo_comma (scansTo_spell value) (scansTo_members (next :: rest)))

end

theorem tokens?_spell (value : Json) : tokens? (spell value) = some (tokens value) := by
  obtain ⟨⟨done, scan⟩, scanned, ended, finished, all⟩ := scansTo_spell value []
  simp only at finished all
  simp only [tokens?, scanned, finished, all, Option.bind_eq_bind, Option.bind_some,
    List.append_nil, List.reverse_reverse, Option.pure_def]

end BuildController.Json
