import NominalCheck.Settings.Switch

/-!
# What spells a truth value

A switch is given by a truth value, by a word or by a number, and values of several kinds are words
or numbers: a byte string is a word like a text, a whole float is a number, and a wrapped text and
an object are the numbers that they convert to.  Here a spelling is told apart from what it means.
A value without a spelling is of a wrong kind; a value with one that means neither on nor off is
badly spelled.

## Main definitions

* `Spells s b` — the text `s` is one of the words for `b`.
* `Spelling` — a truth value, a word or a number.
* `Spelling.Means p b` — the spelling `p` means the truth value `b`.
* `Value.Bears v p` — the value `v` bears the spelling `p`.
* `Value.Denotes v b` — the value `v` bears a spelling of `b`.

## Main results

* `spelledSwitch?_eq_some_iff` — the reader of words finds what is spelled.
* `Value.toSwitch_of_bears`, `Value.toSwitch_of_not_bears` — what is complained about.
* `Value.toSwitch_eq_ok_iff` — the reader of switches finds what is denoted.
-/

namespace NominalCheck

/-! ### Words -/

/-- The text is one of the words for a truth value, in any letter case. -/
def Spells (s : String) (b : Bool) : Prop :=
  ∃ word ∈ (if b then onWords else offWords), Text.sameLetters s word = true

theorem spells_true_iff {s : String} : Spells s true ↔ onWords.any (Text.sameLetters s) = true := by
  rw [List.any_eq_true]
  rfl

theorem spells_false_iff {s : String} :
    Spells s false ↔ offWords.any (Text.sameLetters s) = true := by
  rw [List.any_eq_true]
  rfl

/-- No text is a word for both. -/
theorem not_spells_false {s : String} (h : Spells s true) : ¬ Spells s false := by
  rintro ⟨off, hoff, hs'⟩
  obtain ⟨on, hon, hs⟩ := h
  have hapart : ∀ on ∈ onWords, ∀ off ∈ offWords, Text.lowered on ≠ Text.lowered off := by decide
  simp only [Text.sameLetters, beq_iff_eq] at hs hs'
  exact hapart on hon off hoff (hs.symm.trans hs')

theorem spelledSwitch?_eq_some_iff {s : String} {b : Bool} :
    spelledSwitch? s = some b ↔ Spells s b := by
  by_cases hon : Spells s true
  · rw [spelledSwitch?, if_pos (spells_true_iff.mp hon)]
    cases b with
    | true => simp [hon]
    | false => simp [not_spells_false hon]
  · rw [spelledSwitch?, if_neg (mt spells_true_iff.mpr hon)]
    by_cases hoff : Spells s false
    · rw [if_pos (spells_false_iff.mp hoff)]
      cases b <;> simp [hon, hoff]
    · rw [if_neg (mt spells_false_iff.mpr hoff)]
      cases b <;> simp [hon, hoff]

/-! ### Spellings -/

/-- What a truth value is spelled by. -/
inductive Spelling
  /-- By itself. -/
  | truth (b : Bool)
  /-- By a word. -/
  | word (s : String)
  /-- By a whole number. -/
  | number (i : Int)
  deriving DecidableEq, Repr

namespace Spelling

/-- The spelling means the truth value: zero is off, and one is on. -/
def Means : Spelling → Bool → Prop
  | truth c, b => c = b
  | word s, b => Spells s b
  | number i, b => i = b.toInt

/-- The truth value that a spelling means, if it means any. -/
def read? : Spelling → Option Bool
  | truth b => some b
  | word s => spelledSwitch? s
  | number i => intSwitch? i

end Spelling

theorem intSwitch?_eq_some_iff {i : Int} {b : Bool} : intSwitch? i = some b ↔ i = b.toInt := by
  by_cases h0 : i = 0
  · subst h0
    cases b <;> decide
  · by_cases h1 : i = 1
    · subst h1
      cases b <;> decide
    · rw [intSwitch?, if_neg h0, if_neg h1]
      cases b with
      | true => exact iff_of_false nofun h1
      | false => exact iff_of_false nofun h0

/-- A number that a machine word can not hold is neither zero nor one. -/
theorem intSwitch?_of_not_isMachineInt {i : Int} (h : ¬ isMachineInt i = true) :
    intSwitch? i = none := by
  rw [Option.eq_none_iff_forall_ne_some]
  rintro b hb
  rw [intSwitch?_eq_some_iff] at hb
  subst hb
  exact h (by cases b <;> decide)

theorem wholeSwitch_of_isMachineInt {i : Int} (h : isMachineInt i = true) :
    wholeSwitch i = (intSwitch? i).elim (.error .boolParsing) .ok := by
  rw [wholeSwitch, if_pos h]

theorem wholeSwitch_of_not_isMachineInt {i : Int} (h : ¬ isMachineInt i = true) :
    wholeSwitch i = .error .boolType := by
  rw [wholeSwitch, intSwitch?_of_not_isMachineInt h, if_neg h]
  rfl

namespace Spelling

variable {p : Spelling} {b : Bool}

theorem read?_eq_some_iff : p.read? = some b ↔ p.Means b := by
  cases p with
  | truth c => exact Option.some.injEq c b ▸ Iff.rfl
  | word s => exact spelledSwitch?_eq_some_iff
  | number i => exact intSwitch?_eq_some_iff

end Spelling

namespace Value

/-- The value bears the spelling.  Numbers that a machine word can not hold are no spellings. -/
inductive Bears : Value → Spelling → Prop
  /-- A truth value is its own spelling. -/
  | bool {b : Bool} : Bears (.bool b) (.truth b)
  /-- A text is a word. -/
  | text {s : String} : Bears (.text s) (.word s)
  /-- So is a byte string, though not one that can be changed. -/
  | bytes {data : List UInt8} : Bears (.bytes .bytes data) (.word (byteText data))
  /-- A whole number is a number. -/
  | int {i : Int} (h : isMachineInt i = true) : Bears (.int i) (.number i)
  /-- So is a member of an enumeration of whole numbers. -/
  | member {enumeration name : String} {i : Int} (h : isMachineInt i = true) :
      Bears (.member enumeration name i true) (.number i)
  /-- So is a float that is a whole number. -/
  | float {x : Double} {i : Int} (hx : x.toInt? = some i) (h : i.natAbs < Nat.pow 2 63) :
      Bears (.float x) (.number i)
  /-- A wrapped text is the number that it denotes, and no word. -/
  | wrappedText {s : String} {x : Double} {p : Spelling} (hs : Double.ofText? s = some x)
      (h : Bears (.float x) p) : Bears (.wrappedText s) p
  /-- So is an object that converts to a number. -/
  | object {signs : Signs} {x : Double} {p : Spelling} (hs : signs.number = some x)
      (h : Bears (.float x) p) : Bears (.object signs) p
  /-- A value of a subclass is spelled as its base. -/
  | subclass {name : String} {base : Value} {p : Spelling} (h : Bears base p) :
      Bears (.subclass name base) p

/-- The value bears a spelling of the truth value. -/
def Denotes (v : Value) (b : Bool) : Prop := ∃ p, v.Bears p ∧ p.Means b

variable {v : Value} {p : Spelling} {b : Bool}

/-- A value that is a number for switches is read as that number. -/
theorem toSwitch_eq_floatSwitch {x : Double} (hv : v = .float x ∨
    (∃ s, v = .wrappedText s ∧ Double.ofText? s = some x) ∨
      ∃ signs, v = .object signs ∧ signs.number = some x) : v.toSwitch = floatSwitch x := by
  rcases hv with rfl | ⟨s, rfl, hs⟩ | ⟨signs, rfl, hs⟩
  · rfl
  · change (Double.ofText? s).elim (.error .boolType) floatSwitch = _
    rw [hs]
    rfl
  · change signs.number.elim (.error .boolType) floatSwitch = _
    rw [hs]
    rfl

/-- A value with a spelling is read as the spelling, and the complaint is about the spelling. -/
theorem toSwitch_of_bears (h : v.Bears p) :
    v.toSwitch = p.read?.elim (.error .boolParsing) .ok := by
  induction h with
  | bool => rfl
  | text => rfl
  | bytes => rfl
  | int h => exact wholeSwitch_of_isMachineInt h
  | member h => exact wholeSwitch_of_isMachineInt h
  | float hx h => rw [toSwitch_eq_floatSwitch (Or.inl rfl), floatSwitch, hx]; exact if_pos h
  | wrappedText hs h ih => rw [toSwitch_eq_floatSwitch (Or.inr (Or.inl ⟨_, rfl, hs⟩))]; exact ih
  | object hs h ih => rw [toSwitch_eq_floatSwitch (Or.inr (Or.inr ⟨_, rfl, hs⟩))]; exact ih
  | subclass h ih => rw [kept_toSwitch]; exact ih

theorem floatSwitch_of_not_bears {x : Double} (h : ∀ p, ¬ (Value.float x).Bears p) :
    floatSwitch x = .error .boolType := by
  rw [floatSwitch]
  cases hx : x.toInt? with
  | none => rfl
  | some i => exact if_neg fun hi => h _ (.float hx hi)

/-- A value without one is of a wrong kind. -/
theorem toSwitch_of_not_bears (h : ∀ p, ¬ v.Bears p) : v.toSwitch = .error .boolType := by
  fun_induction Value.bare v with
  | case1 name base ih => exact ih fun p hp => h p (.subclass hp)
  | case2 v hv =>
    cases v with
    | bool b => exact absurd .bool (h _)
    | text s => exact absurd .text (h _)
    | bytes kind data =>
      cases kind with
      | bytes => exact absurd .bytes (h _)
      | _ => rfl
    | int i => exact wholeSwitch_of_not_isMachineInt fun hi => h _ (.int hi)
    | member enumeration name i whole =>
      cases whole with
      | false => rfl
      | true => exact wholeSwitch_of_not_isMachineInt fun hi => h _ (.member hi)
    | float x => exact floatSwitch_of_not_bears h
    | wrappedText s =>
      cases hs : Double.ofText? s with
      | none =>
        change (Double.ofText? s).elim _ _ = _
        rw [hs]
        rfl
      | some x =>
        rw [toSwitch_eq_floatSwitch (Or.inr (Or.inl ⟨s, rfl, hs⟩))]
        exact floatSwitch_of_not_bears fun p hp => h p (.wrappedText hs hp)
    | object signs =>
      cases hs : signs.number with
      | none =>
        change signs.number.elim _ _ = _
        rw [hs]
        rfl
      | some x =>
        rw [toSwitch_eq_floatSwitch (Or.inr (Or.inr ⟨signs, rfl, hs⟩))]
        exact floatSwitch_of_not_bears fun p hp => h p (.object hs hp)
    | subclass name base => exact absurd rfl (hv name base)
    | _ => rfl

/-- A value bears one spelling at most. -/
theorem Bears.unique {q : Spelling} (hp : v.Bears p) (hq : v.Bears q) : p = q := by
  induction hp with
  | bool => cases hq; rfl
  | text => cases hq; rfl
  | bytes => cases hq; rfl
  | int _ => cases hq; rfl
  | member _ => cases hq; rfl
  | float hx _ =>
    cases hq with
    | float hx' _ =>
      cases hx.symm.trans hx'
      rfl
  | wrappedText hs _ ih =>
    cases hq with
    | wrappedText hs' h' =>
      cases hs.symm.trans hs'
      exact ih h'
  | object hs _ ih =>
    cases hq with
    | object hs' h' =>
      cases hs.symm.trans hs'
      exact ih h'
  | subclass _ ih =>
    cases hq with
    | subclass h' => exact ih h'

theorem denotes_iff_of_bears (h : v.Bears p) : v.Denotes b ↔ p.Means b := by
  refine ⟨?_, fun hb => ⟨p, h, hb⟩⟩
  rintro ⟨q, hq, hb⟩
  rwa [h.unique hq]

/-- A value is read as what it denotes. -/
theorem toSwitch_eq_ok_iff : v.toSwitch = .ok b ↔ v.Denotes b := by
  by_cases h : ∃ p, v.Bears p
  · obtain ⟨p, hp⟩ := h
    rw [toSwitch_of_bears hp, denotes_iff_of_bears hp, ← Spelling.read?_eq_some_iff]
    cases p.read? <;> simp
  · rw [toSwitch_of_not_bears (not_exists.mp h)]
    exact iff_of_false nofun fun ⟨p, hp, _⟩ => h ⟨p, hp⟩

end Value

end NominalCheck
