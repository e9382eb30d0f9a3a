import Mathlib.Data.List.Chain
import NominalCheck.Text.Json

/-!
# Reading JSON objects

An object is read in two turns, first by characters and then by tokens.  The lexer is an automaton
that takes one character after the other; inside a text it collects UTF-16 code units, and these are
put together to code points where the text ends.  The tokens of an object with text values are then
told apart by their shape.

The reader takes more than is ever written here: any blanks between tokens, escapes that are not
needed, digits in capitals, and characters beyond ASCII as they are.  What is written is plain
characters whatever the text holds, and is read back as it was, unless the text has a high surrogate
right before a low one: these two are read as the one character that has them for code units.

## Main definitions

* `Settled ps` — of the code points `ps` no two are surrogates that make up a character.
* `ofUnits us` — the code points that code units stand for.
* `Lexer`, `Lexer.step`, `tokens?` — the automaton, its step, and the tokens of a text.
* `readObject s` — the names and texts of the object `s`, if it is one.
* `Lexes cs ts` — between tokens, the characters `cs` are read as the tokens `ts`.

## Main results

* `settled_points` — the code points of a text of characters are settled.
* `ofUnits_flatMap` — settled code points are read back off their code units.
* `lexes_jsonChars` — a text is read as one token, whatever it holds.
* `readObject_jsonObject` — an object is read back as it was written.
* `jsonText_codeUnits` — a character that is split into its two surrogates is written as the whole
  one is.
* `isPlain_jsonObject` — the characters written are from the blank to the tilde.
-/

namespace NominalCheck.Text

/-! ### Code units -/

/-- The first surrogate of a pair. -/
def IsHigh (n : Nat) : Prop := 0xd800 ≤ n ∧ n < 0xdc00

/-- The second surrogate of a pair. -/
def IsLow (n : Nat) : Prop := 0xdc00 ≤ n ∧ n < 0xe000

instance : DecidablePred IsHigh := fun _ => instDecidableAnd

instance : DecidablePred IsLow := fun _ => instDecidableAnd

/-- Two numbers in a row are not the surrogates of a pair. -/
def Apart (m n : Nat) : Prop := ¬ (IsHigh m ∧ IsLow n)

instance (m n : Nat) : Decidable (Apart m n) := instDecidableNot

/-- Code points of which no two in a row are the surrogates of a pair. -/
def Settled (ps : Points) : Prop := (∀ p ∈ ps, p < 0x110000) ∧ ps.IsChain Apart

instance : DecidablePred Settled := fun _ => instDecidableAnd

/-- The code points that UTF-16 code units stand for. A pair of surrogates stands for a character
beyond the basic plane, any other surrogate for itself. -/
def ofUnits : List Nat → Points
  | [] => []
  | [u] => [u]
  | u :: v :: us =>
    if IsHigh u ∧ IsLow v then (0x10000 + (u - 0xd800) * 0x400 + (v - 0xdc00)) :: ofUnits us
    else u :: ofUnits (v :: us)

theorem codeUnits_of_lt {n : Nat} (h : n < 0x10000) : codeUnits n = [n] := if_pos h

theorem codeUnits_of_le {n : Nat} (h : 0x10000 ≤ n) :
    codeUnits n = [0xd800 + (n - 0x10000) / 0x400, 0xdc00 + (n - 0x10000) % 0x400] :=
  if_neg (Nat.not_lt.mpr h)

/-- A code unit fits in four hexadecimal digits. -/
theorem lt_of_mem_codeUnits {n u : Nat} (hn : n < 0x110000) (h : u ∈ codeUnits n) :
    u < 0x10000 := by
  by_cases hlow : n < 0x10000
  · rw [codeUnits_of_lt hlow, List.mem_singleton] at h
    omega
  · rw [codeUnits_of_le (Nat.not_lt.mp hlow), List.mem_cons, List.mem_singleton] at h
    omega

/-- The code units of what is beyond ASCII are so too. -/
theorem le_of_mem_codeUnits {n u : Nat} (hn : 127 ≤ n) (h : u ∈ codeUnits n) : 127 ≤ u := by
  by_cases hlow : n < 0x10000
  · rw [codeUnits_of_lt hlow, List.mem_singleton] at h
    omega
  · rw [codeUnits_of_le (Nat.not_lt.mp hlow), List.mem_cons, List.mem_singleton] at h
    omega

theorem ofUnits_cons_of_apart {u : Nat} {us : List Nat} (h : ∀ v ∈ us.head?, Apart u v) :
    ofUnits (u :: us) = u :: ofUnits us := by
  cases us with
  | nil => rfl
  | cons v us => exact if_neg (h v rfl)

theorem ofUnits_of_pair {u v : Nat} (hu : IsHigh u) (hv : IsLow v) (us : List Nat) :
    ofUnits (u :: v :: us) = (0x10000 + (u - 0xd800) * 0x400 + (v - 0xdc00)) :: ofUnits us :=
  if_pos ⟨hu, hv⟩

/-- The code units of what follows begin with its own number or with a high surrogate. -/
theorem apart_head_codeUnits {m n : Nat} {us : List Nat} (hn : n < 0x110000) (h : Apart m n) :
    ∀ v ∈ (codeUnits n ++ us).head?, Apart m v := by
  intro v hv
  by_cases hlow : n < 0x10000
  · rw [codeUnits_of_lt hlow] at hv
    cases hv
    exact h
  · rw [codeUnits_of_le (Nat.not_lt.mp hlow)] at hv
    cases hv
    unfold Apart IsLow
    omega

theorem settled_nil : Settled [] := ⟨List.forall_mem_nil _, .nil⟩

theorem settled_cons {p : Nat} {ps : Points} :
    Settled (p :: ps) ↔ p < 0x110000 ∧ (∀ q ∈ ps.head?, Apart p q) ∧ Settled ps := by
  rw [Settled, Settled, List.forall_mem_cons]
  cases ps with
  | nil => simp
  | cons q ps =>
    rw [List.isChain_cons_cons]
    constructor
    · rintro ⟨⟨hp, hps⟩, hpq, hchain⟩
      refine ⟨hp, ?_, hps, hchain⟩
      rintro _ ⟨⟩
      exact hpq
    · rintro ⟨hp, hpq, hps, hchain⟩
      exact ⟨⟨hp, hps⟩, hpq q rfl, hchain⟩

/-- Settled code points are read back off their code units. -/
theorem ofUnits_flatMap {ps : Points} (h : Settled ps) : ofUnits (ps.flatMap codeUnits) = ps := by
  induction ps with
  | nil => rfl
  | cons p ps ih =>
    obtain ⟨hp, hapart, hps⟩ := settled_cons.mp h
    rw [List.flatMap_cons]
    by_cases hlow : p < 0x10000
    · have hhead : ∀ v ∈ (ps.flatMap codeUnits).head?, Apart p v := by
        cases ps with
        | nil =>
          intro v hv
          cases hv
        | cons q ps =>
          exact apart_head_codeUnits (settled_cons.mp hps).1 (hapart q rfl)
      rw [codeUnits_of_lt hlow, List.singleton_append, ofUnits_cons_of_apart hhead, ih hps]
    · have hpair : 0x10000 + (0xd800 + (p - 0x10000) / 0x400 - 0xd800) * 0x400
          + (0xdc00 + (p - 0x10000) % 0x400 - 0xdc00) = p := by omega
      have hhigh : IsHigh (0xd800 + (p - 0x10000) / 0x400) := by
        unfold IsHigh
        omega
      have hsecond : IsLow (0xdc00 + (p - 0x10000) % 0x400) := by
        unfold IsLow
        omega
      rw [codeUnits_of_le (Nat.not_lt.mp hlow), List.cons_append, List.singleton_append,
        ofUnits_of_pair hhigh hsecond, hpair, ih hps]

theorem toNat_range (c : Char) :
    c.toNat < 0xd800 ∨ (0xe000 ≤ c.toNat ∧ c.toNat < 0x110000) := by
  have hvalid : c.toNat.isValidChar := c.valid
  unfold Nat.isValidChar at hvalid
  omega

/-- A text of characters has no surrogates, so its code points are settled. -/
theorem settled_points (s : String) : Settled (points s) := by
  unfold points
  induction s.toList with
  | nil => exact settled_nil
  | cons c cs ih =>
    have hrange := toNat_range c
    refine settled_cons.mpr ⟨by omega, fun q _ hpair => ?_, ih⟩
    have hhigh := hpair.1
    unfold IsHigh at hhigh
    omega

/-- The text of the given code points, if all of them are characters. -/
def ofPoints? (ps : Points) : Option String :=
  if ∀ p ∈ ps, p.isValidChar then some (String.ofList (ps.map Char.ofNat)) else none

theorem ofPoints?_points (s : String) : ofPoints? (points s) = some s := by
  have hvalid : ∀ p ∈ points s, p.isValidChar := by
    intro p hp
    obtain ⟨c, -, rfl⟩ := List.mem_map.mp hp
    exact c.valid
  have hsame : (points s).map Char.ofNat = s.toList := by
    rw [points, List.map_map]
    exact (List.map_congr_left fun c _ => Char.ofNat_toNat c).trans (List.map_id _)
  rw [ofPoints?, if_pos hvalid, hsame, String.ofList_toList]

/-! ### Hexadecimal digits -/

/-- The value of a hexadecimal digit, small or capital. -/
def hexValue? (c : Char) : Option Nat :=
  if '0' ≤ c ∧ c ≤ '9' then some (c.toNat - '0'.toNat)
  else if 'a' ≤ c ∧ c ≤ 'f' then some (c.toNat - 'a'.toNat + 10)
  else if 'A' ≤ c ∧ c ≤ 'F' then some (c.toNat - 'A'.toNat + 10)
  else none

theorem hexValue?_digitChar {d : Nat} (h : d < 16) : hexValue? (Nat.digitChar d) = some d := by
  revert d
  decide

theorem hexadecimal_one {n : Nat} (h : n < 16) : hexadecimal 1 n = [Nat.digitChar n] := by
  rw [hexadecimal, Nat.toDigits_of_lt_base h]
  rfl

/-- The last digit is the remainder, and the others are those of the quotient. -/
theorem hexadecimal_succ {width : Nat} (hw : 0 < width) (n : Nat) :
    hexadecimal (width + 1) n = hexadecimal width (n / 16) ++ [Nat.digitChar (n % 16)] := by
  rw [hexadecimal, hexadecimal]
  by_cases h : n < 16
  · -- a single digit stands behind as many zeros as the width leaves
    obtain ⟨width, rfl⟩ := Nat.exists_eq_succ_of_ne_zero (Nat.ne_of_gt hw)
    rw [Nat.div_eq_of_lt h, Nat.mod_eq_of_lt h, Nat.toDigits_of_lt_base h, Nat.toDigits_zero]
    simp only [List.length_singleton, Nat.succ_eq_add_one, Nat.add_sub_cancel, List.replicate_succ']
  · rw [Nat.toDigits_of_base_le (by decide) (Nat.not_lt.mp h), List.length_append,
      List.length_singleton, Nat.add_sub_add_right, List.append_assoc]

/-- The four digits of a code unit. -/
theorem hexadecimal_four {n : Nat} (h : n < 0x10000) :
    hexadecimal 4 n = [Nat.digitChar (n / 16 / 16 / 16), Nat.digitChar (n / 16 / 16 % 16),
      Nat.digitChar (n / 16 % 16), Nat.digitChar (n % 16)] := by
  rw [hexadecimal_succ (by decide), hexadecimal_succ (by decide), hexadecimal_succ (by decide),
    hexadecimal_one (by omega)]
  rfl

/-! ### The lexer -/

/-- A token of an object with text values. -/
inductive Token
  /-- A text. -/
  | text (ps : Points)
  /-- A bracket, a colon or a comma. -/
  | sign (c : Char)
  deriving DecidableEq, Repr

/-- Where the lexer is. -/
inductive LexMode
  /-- Between tokens. -/
  | outside
  /-- Inside a text, of which the code units so far are known. -/
  | inside (units : List Nat)
  /-- Behind a backslash. -/
  | escaped (units : List Nat)
  /-- At a digit of a code unit, after which `pending` more follow. -/
  | digits (units : List Nat) (pending value : Nat)
  deriving DecidableEq, Repr

/-- The state of the lexer. -/
structure Lexer where
  /-- Where it is. -/
  mode : LexMode := .outside
  /-- The tokens so far. -/
  tokens : List Token := []
  deriving DecidableEq, Repr

/-- The code unit of an escape by a single character. -/
def escapedUnit? : Char → Option Nat
  | '"' => some 0x22
  | '\\' => some 0x5c
  | '/' => some 0x2f
  | 'b' => some 0x08
  | 'f' => some 0x0c
  | 'n' => some 0x0a
  | 'r' => some 0x0d
  | 't' => some 0x09
  | _ => none

theorem isPlainByte_of_escapedUnit? {e : Char} {u : Nat} (h : escapedUnit? e = some u) :
    isPlainByte e = true := by
  unfold escapedUnit? at h
  split at h
  case h_9 => cases h
  all_goals rfl

/-- A code point is written by a single character behind a backslash, or as it is, or by its code
units. -/
theorem jsonEscape_cases (n : Nat) :
    (∃ e u, jsonEscape n = ['\\', e] ∧ escapedUnit? e = some u ∧ codeUnits n = [u]) ∨
      (∃ c : Char, jsonEscape n = [c] ∧ ¬ (c = '"' ∨ c = '\\') ∧ 32 ≤ c.toNat ∧ c.toNat < 127 ∧
        c.toNat = n) ∨
      jsonEscape n = (codeUnits n).flatMap unitEscape := by
  rw [jsonEscape]
  split
  · next h =>
    rcases h with rfl | rfl
    · exact Or.inl ⟨'"', 0x22, rfl, rfl, rfl⟩
    · exact Or.inl ⟨'\\', 0x5c, rfl, rfl, rfl⟩
  next hmark =>
  split
  · next h => exact Or.inl ⟨'n', 0x0a, rfl, rfl, h ▸ rfl⟩
  split
  · next h => exact Or.inl ⟨'r', 0x0d, rfl, rfl, h ▸ rfl⟩
  split
  · next h => exact Or.inl ⟨'t', 0x09, rfl, rfl, h ▸ rfl⟩
  split
  · next h => exact Or.inl ⟨'b', 0x08, rfl, rfl, h ▸ rfl⟩
  split
  · next h => exact Or.inl ⟨'f', 0x0c, rfl, rfl, h ▸ rfl⟩
  split
  · next h =>
    have hascii : ∀ m < 127, (Char.ofNat m).toNat = m := by decide
    have hn : (Char.ofNat n).toNat = n := hascii n h.2
    refine Or.inr (Or.inl ⟨Char.ofNat n, rfl, ?_, by omega, by omega, hn⟩)
    rintro (hc | hc)
    · exact hmark (Or.inl (hn.symm.trans (congrArg Char.toNat hc)))
    · exact hmark (Or.inr (hn.symm.trans (congrArg Char.toNat hc)))
  · exact Or.inr (Or.inr rfl)

namespace Lexer

/-- The lexer takes one more character, if it may stand there. -/
def step (l : Lexer) (c : Char) : Option Lexer :=
  match l.mode with
  | .outside =>
    if c ∈ [' ', '\t', '\n', '\r'] then some l
    else if c = '"' then some { l with mode := .inside [] }
    else if c ∈ ['\x7b', '\x7d', ':', ','] then some { l with tokens := l.tokens ++ [.sign c] }
    else none
  | .inside units =>
    if c = '"' then some { mode := .outside, tokens := l.tokens ++ [.text (ofUnits units)] }
    else if c = '\\' then some { l with mode := .escaped units }
    else if c.toNat < 32 then none
    else some { l with mode := .inside (units ++ codeUnits c.toNat) }
  | .escaped units =>
    if c = 'u' then some { l with mode := .digits units 3 0 }
    else (escapedUnit? c).map fun u => { l with mode := .inside (units ++ [u]) }
  | .digits units pending value =>
    (hexValue? c).map fun d =>
      match pending with
      | 0 => { l with mode := .inside (units ++ [value * 16 + d]) }
      | pending + 1 => { l with mode := .digits units pending (value * 16 + d) }

/-- The lexer takes several characters, one after the other. -/
def run (l : Lexer) (cs : List Char) : Option Lexer := cs.foldlM step l

variable {l l' : Lexer}

theorem run_nil (l : Lexer) : l.run [] = some l := rfl

theorem run_cons_of_step {c : Char} (h : l.step c = some l') (cs : List Char) :
    l.run (c :: cs) = l'.run cs := by
  rw [run, List.foldlM_cons, h]
  rfl

theorem run_append_of_run {cs : List Char} (h : l.run cs = some l') (ds : List Char) :
    l.run (cs ++ ds) = l'.run ds := by
  rw [run, List.foldlM_append, ← run, h]
  rfl

/-! ### Inside a text -/

variable {units : List Nat} {tokens : List Token}

theorem step_digit {d : Nat} (hd : d < 16) (pending value : Nat) :
    step ⟨.digits units (pending + 1) value, tokens⟩ (Nat.digitChar d)
      = some ⟨.digits units pending (value * 16 + d), tokens⟩ := by
  rw [step, hexValue?_digitChar hd]
  rfl

theorem step_last_digit {d : Nat} (hd : d < 16) (value : Nat) :
    step ⟨.digits units 0 value, tokens⟩ (Nat.digitChar d)
      = some ⟨.inside (units ++ [value * 16 + d]), tokens⟩ := by
  rw [step, hexValue?_digitChar hd]
  rfl

/-- A code unit is read back off its escape. -/
theorem run_unitEscape {u : Nat} (h : u < 0x10000) :
    run ⟨.inside units, tokens⟩ (unitEscape u) = some ⟨.inside (units ++ [u]), tokens⟩ := by
  have hvalue : (((0 * 16 + u / 16 / 16 / 16) * 16 + u / 16 / 16 % 16) * 16 + u / 16 % 16) * 16
      + u % 16 = u := by omega
  rw [unitEscape, hexadecimal_four h, run_cons_of_step rfl, run_cons_of_step rfl,
    run_cons_of_step (step_digit (by omega) 2 0),
    run_cons_of_step (step_digit (by omega) 1 _), run_cons_of_step (step_digit (by omega) 0 _),
    run_cons_of_step (step_last_digit (by omega) _), run_nil, hvalue]

theorem run_unitEscapes {us : List Nat} (h : ∀ u ∈ us, u < 0x10000) :
    run ⟨.inside units, tokens⟩ (us.flatMap unitEscape)
      = some ⟨.inside (units ++ us), tokens⟩ := by
  induction us generalizing units with
  | nil => rw [List.append_nil]; rfl
  | cons u us ih =>
    rw [List.flatMap_cons, run_append_of_run (run_unitEscape (h u List.mem_cons_self)),
      ih fun v hv => h v (List.mem_cons_of_mem u hv), List.append_assoc, List.singleton_append]

theorem run_plain {c : Char} (hmark : ¬ (c = '"' ∨ c = '\\')) (hc : 32 ≤ c.toNat) :
    run ⟨.inside units, tokens⟩ [c] = some ⟨.inside (units ++ codeUnits c.toNat), tokens⟩ := by
  rw [not_or] at hmark
  have hstep : step ⟨.inside units, tokens⟩ c
      = some ⟨.inside (units ++ codeUnits c.toNat), tokens⟩ := by
    simp only [step, if_neg hmark.1, if_neg hmark.2, if_neg (Nat.not_lt.mpr hc)]
  rw [run_cons_of_step hstep, run_nil]

theorem run_escaped {e : Char} {u : Nat} (h : escapedUnit? e = some u) :
    run ⟨.inside units, tokens⟩ ['\\', e] = some ⟨.inside (units ++ [u]), tokens⟩ := by
  have hletter : e ≠ 'u' := by
    rintro rfl
    cases h
  have hstep : step ⟨.escaped units, tokens⟩ e = some ⟨.inside (units ++ [u]), tokens⟩ := by
    simp only [step, if_neg hletter, h, Option.map_some]
  rw [run_cons_of_step rfl, run_cons_of_step hstep, run_nil]

/-- A code point is read back as its code units, however it is written. -/
theorem run_jsonEscape {n : Nat} (hn : n < 0x110000) :
    run ⟨.inside units, tokens⟩ (jsonEscape n)
      = some ⟨.inside (units ++ codeUnits n), tokens⟩ := by
  obtain ⟨e, u, hc, he, hu⟩ | ⟨c, hc, hmark, hmin, -, rfl⟩ | hc := jsonEscape_cases n
  · rw [hc, hu]
    exact run_escaped he
  · rw [hc]
    exact run_plain hmark hmin
  · rw [hc]
    exact run_unitEscapes fun u hu => lt_of_mem_codeUnits hn hu

theorem run_jsonEscapes {ps : Points} (h : ∀ p ∈ ps, p < 0x110000) :
    run ⟨.inside units, tokens⟩ (ps.flatMap jsonEscape)
      = some ⟨.inside (units ++ ps.flatMap codeUnits), tokens⟩ := by
  induction ps generalizing units with
  | nil => rw [List.flatMap_nil, List.flatMap_nil, List.append_nil]; rfl
  | cons p ps ih =>
    rw [List.forall_mem_cons] at h
    rw [List.flatMap_cons, run_append_of_run (run_jsonEscape h.1), ih h.2, List.append_assoc,
      List.flatMap_cons]

end Lexer

/-! ### Between tokens -/

/-- Between tokens, the characters are read as the given tokens. -/
def Lexes (cs : List Char) (ts : List Token) : Prop :=
  ∀ tokens, Lexer.run ⟨.outside, tokens⟩ cs = some ⟨.outside, tokens ++ ts⟩

section

variable {cs ds : List Char} {ts us : List Token}

theorem Lexes.append (h : Lexes cs ts) (h' : Lexes ds us) : Lexes (cs ++ ds) (ts ++ us) := by
  intro tokens
  rw [Lexer.run_append_of_run (h tokens), h', List.append_assoc]

/-- A text is one token, whatever it holds: the code points that its code units stand for. -/
theorem lexes_jsonChars {ps : Points} (h : ∀ p ∈ ps, p < 0x110000) :
    Lexes (jsonChars ps) [.text (ofUnits (ps.flatMap codeUnits))] := by
  intro tokens
  have hunits : Lexer.run ⟨.inside [], tokens⟩ (ps.flatMap jsonEscape)
      = some ⟨.inside ([] ++ ps.flatMap codeUnits), tokens⟩ := Lexer.run_jsonEscapes h
  have hend : Lexer.step ⟨.inside ([] ++ ps.flatMap codeUnits), tokens⟩ '"'
      = some ⟨.outside, tokens ++ [.text (ofUnits (ps.flatMap codeUnits))]⟩ := rfl
  rw [jsonChars, List.cons_append, Lexer.run_cons_of_step rfl, Lexer.run_append_of_run hunits,
    Lexer.run_cons_of_step hend, Lexer.run_nil]

/-- A settled text is read back as it was written. -/
theorem lexes_jsonText {ps : Points} (h : Settled ps) : Lexes (jsonText ps).toList [.text ps] := by
  have hchars := lexes_jsonChars h.1
  rwa [ofUnits_flatMap h, ← String.toList_ofList (l := jsonChars ps)] at hchars

theorem lexes_sign {c : Char} (hc : c ∈ ['\x7b', '\x7d', ':', ',']) : Lexes [c] [.sign c] := by
  intro tokens
  simp only [List.mem_cons, List.not_mem_nil, or_false] at hc
  rcases hc with rfl | rfl | rfl | rfl <;> rfl

theorem lexes_blank : Lexes [' '] [] := by
  intro tokens
  rw [List.append_nil]
  rfl

end

/-! ### Objects -/

/-- The tokens of a lexer that has come to the end of a text. -/
def Lexer.ended? (l : Lexer) : Option (List Token) :=
  if l.mode = .outside then some l.tokens else none

/-- The tokens of a text, if it ends between tokens. -/
def tokens? (s : String) : Option (List Token) :=
  (Lexer.run {} s.toList).bind Lexer.ended?

theorem tokens?_of_lexes {s : String} {ts : List Token} (h : Lexes s.toList ts) :
    tokens? s = some ts := by
  rw [tokens?, h []]
  rfl

/-- The names and texts of members up to the end of an object. -/
def readMembers : List Token → Option (List (Points × Points))
  | [.text name, .sign ':', .text ps, .sign '\x7d'] => some [(name, ps)]
  | .text name :: .sign ':' :: .text ps :: .sign ',' :: ts =>
    (readMembers ts).map ((name, ps) :: ·)
  | _ => none

/-- The names and texts of an object. -/
def readObject (s : String) : Option (List (Points × Points)) :=
  match tokens? s with
  | some [.sign '\x7b', .sign '\x7d'] => some []
  | some (.sign '\x7b' :: ts) => readMembers ts
  | _ => none

/-- The tokens of members up to the end of an object. -/
def memberTokens : List (Points × Points) → List Token
  | [] => [.sign '\x7d']
  | [(name, ps)] => [.text name, .sign ':', .text ps, .sign '\x7d']
  | (name, ps) :: fields =>
    .text name :: .sign ':' :: .text ps :: .sign ',' :: memberTokens fields

theorem readMembers_memberTokens {fields : List (Points × Points)} (h : fields ≠ []) :
    readMembers (memberTokens fields) = some fields := by
  induction fields with
  | nil => exact absurd rfl h
  | cons field fields ih =>
    cases fields with
    | nil => rfl
    | cons other fields =>
      change (readMembers (memberTokens (other :: fields))).map _ = _
      rw [ih (List.cons_ne_nil other fields)]
      rfl

/-- A member of an object as it is written. -/
def jsonMember (field : Points × Points) : String :=
  jsonText field.1 ++ ": " ++ jsonText field.2

theorem jsonObject_eq (fields : List (Points × Points)) :
    jsonObject fields = "\x7b" ++ ", ".intercalate (fields.map jsonMember) ++ "\x7d" := rfl

theorem intercalate_jsonMember (field other : Points × Points) (fields : List (Points × Points)) :
    ", ".intercalate ((field :: other :: fields).map jsonMember)
      = jsonMember field ++ ", " ++ ", ".intercalate ((other :: fields).map jsonMember) :=
  String.intercalate_cons_cons

/-- The names and texts of an object are settled. -/
def SettledFields (fields : List (Points × Points)) : Prop :=
  ∀ field ∈ fields, Settled field.1 ∧ Settled field.2

theorem lexes_jsonMember {field : Points × Points} (h : Settled field.1 ∧ Settled field.2) :
    Lexes (jsonMember field).toList [.text field.1, .sign ':', .text field.2] := by
  have hbetween : Lexes ": ".toList [.sign ':'] :=
    (lexes_sign (List.mem_of_elem_eq_true rfl)).append lexes_blank
  rw [jsonMember, String.toList_append, String.toList_append]
  exact ((lexes_jsonText h.1).append hbetween).append (lexes_jsonText h.2)

/-- The members of an object are read one by one, up to its end. -/
theorem lexes_members {fields : List (Points × Points)} (h : SettledFields fields) :
    Lexes ((", ".intercalate (fields.map jsonMember)).toList ++ ['\x7d'])
      (memberTokens fields) := by
  have hend : Lexes ['\x7d'] [.sign '\x7d'] := lexes_sign (List.mem_of_elem_eq_true rfl)
  have hcomma : Lexes ", ".toList [.sign ','] :=
    (lexes_sign (List.mem_of_elem_eq_true rfl)).append lexes_blank
  induction fields with
  | nil => exact hend
  | cons field fields ih =>
    obtain ⟨hfield, hfields⟩ := List.forall_mem_cons.mp h
    cases fields with
    | nil =>
      rw [List.map_singleton, String.intercalate_singleton]
      exact (lexes_jsonMember hfield).append hend
    | cons other fields =>
      rw [intercalate_jsonMember, String.toList_append, String.toList_append, List.append_assoc]
      exact ((lexes_jsonMember hfield).append hcomma).append (ih hfields)

theorem tokens?_jsonObject {fields : List (Points × Points)} (h : SettledFields fields) :
    tokens? (jsonObject fields) = some (.sign '\x7b' :: memberTokens fields) := by
  have hbegin : Lexes ['\x7b'] [.sign '\x7b'] := lexes_sign (List.mem_of_elem_eq_true rfl)
  refine tokens?_of_lexes ?_
  rw [jsonObject_eq, String.toList_append, String.toList_append, List.append_assoc]
  exact hbegin.append (lexes_members h)

/-- An object with settled texts is read back as it was written. -/
theorem readObject_jsonObject {fields : List (Points × Points)} (h : SettledFields fields) :
    readObject (jsonObject fields) = some fields := by
  rw [readObject, tokens?_jsonObject h]
  cases fields with
  | nil => rfl
  | cons field fields =>
    have hmembers := readMembers_memberTokens (List.cons_ne_nil field fields)
    cases fields with
    | nil => exact hmembers
    | cons other fields => exact hmembers

/-! ### Split characters -/

theorem jsonEscape_of_le {n : Nat} (h : 127 ≤ n) :
    jsonEscape n = (codeUnits n).flatMap unitEscape := by
  rw [jsonEscape, if_neg (by rintro (rfl | rfl) <;> exact absurd h (by decide)),
    if_neg (by rintro rfl; exact absurd h (by decide)),
    if_neg (by rintro rfl; exact absurd h (by decide)),
    if_neg (by rintro rfl; exact absurd h (by decide)),
    if_neg (by rintro rfl; exact absurd h (by decide)),
    if_neg (by rintro rfl; exact absurd h (by decide)), if_neg (by omega)]

/-- Escaping the code units of a character is escaping the character. -/
theorem flatMap_jsonEscape_codeUnits {n : Nat} (h : 127 ≤ n) (hn : n < 0x110000) :
    (codeUnits n).flatMap jsonEscape = jsonEscape n := by
  have hunits : ∀ u ∈ codeUnits n, jsonEscape u = unitEscape u := by
    intro u hu
    rw [jsonEscape_of_le (le_of_mem_codeUnits h hu), codeUnits_of_lt (lt_of_mem_codeUnits hn hu),
      List.flatMap_singleton]
  rw [jsonEscape_of_le h]
  exact List.flatMap_congr hunits

/-- A character that is split into its two surrogates is written as the whole one is. -/
theorem jsonText_codeUnits {n : Nat} (h : 127 ≤ n) (hn : n < 0x110000) (before after : Points) :
    jsonText (before ++ codeUnits n ++ after) = jsonText (before ++ [n] ++ after) := by
  simp only [jsonText, jsonChars, List.flatMap_append, List.flatMap_singleton,
    flatMap_jsonEscape_codeUnits h hn]

/-! ### Plain characters -/

/-- All characters are from the blank to the tilde. -/
def IsPlain (cs : List Char) : Prop := ∀ c ∈ cs, isPlainByte c = true

instance : DecidablePred IsPlain := fun cs => List.decidableBAll _ cs

theorem isPlain_nil : IsPlain [] := fun _ h => nomatch h

theorem isPlain_cons {c : Char} {cs : List Char} (hc : isPlainByte c = true) (h : IsPlain cs) :
    IsPlain (c :: cs) := List.forall_mem_cons.mpr ⟨hc, h⟩

theorem IsPlain.append {cs ds : List Char} (h : IsPlain cs) (h' : IsPlain ds) :
    IsPlain (cs ++ ds) := List.forall_mem_append.mpr ⟨h, h'⟩

theorem isPlain_flatMap {α : Type} {f : α → List Char} {l : List α} (h : ∀ a ∈ l, IsPlain (f a)) :
    IsPlain (l.flatMap f) := by
  intro c hc
  obtain ⟨a, ha, hca⟩ := List.mem_flatMap.mp hc
  exact h a ha c hca

theorem isPlainByte_digitChar {d : Nat} (h : d < 16) : isPlainByte (Nat.digitChar d) = true := by
  revert d
  decide

theorem isPlain_unitEscape {u : Nat} (h : u < 0x10000) : IsPlain (unitEscape u) := by
  have hfirst : isPlainByte (Nat.digitChar (u / 16 / 16 / 16)) = true :=
    isPlainByte_digitChar (by omega)
  have hdigit : ∀ n, isPlainByte (Nat.digitChar (n % 16)) = true :=
    fun n => isPlainByte_digitChar (Nat.mod_lt n (by decide))
  rw [unitEscape, hexadecimal_four h]
  exact isPlain_cons rfl (isPlain_cons rfl (isPlain_cons hfirst (isPlain_cons (hdigit _)
    (isPlain_cons (hdigit _) (isPlain_cons (hdigit _) isPlain_nil)))))

/-- Whatever the code point, what is written is plain. -/
theorem isPlain_jsonEscape {n : Nat} (hn : n < 0x110000) : IsPlain (jsonEscape n) := by
  obtain ⟨e, u, hc, he, -⟩ | ⟨c, hc, -, hmin, hmax, -⟩ | hc := jsonEscape_cases n
  · rw [hc]
    exact isPlain_cons rfl (isPlain_cons (isPlainByte_of_escapedUnit? he) isPlain_nil)
  · rw [hc]
    refine isPlain_cons ?_ isPlain_nil
    rw [isPlainByte, Bool.and_eq_true, decide_eq_true_eq, decide_eq_true_eq]
    exact ⟨hmin, hmax⟩
  · rw [hc]
    exact isPlain_flatMap fun u hu => isPlain_unitEscape (lt_of_mem_codeUnits hn hu)

theorem isPlain_jsonText {ps : Points} (h : Settled ps) : IsPlain (jsonText ps).toList := by
  have hquote : IsPlain ['"'] := isPlain_cons rfl isPlain_nil
  rw [jsonText, String.toList_ofList, jsonChars]
  exact isPlain_cons rfl ((isPlain_flatMap fun p hp => isPlain_jsonEscape (h.1 p hp)).append hquote)

theorem isPlain_jsonMember {field : Points × Points} (h : Settled field.1 ∧ Settled field.2) :
    IsPlain (jsonMember field).toList := by
  rw [jsonMember, String.toList_append, String.toList_append]
  exact ((isPlain_jsonText h.1).append (by decide)).append (isPlain_jsonText h.2)

/-- The characters written are from the blank to the tilde. -/
theorem isPlain_jsonObject {fields : List (Points × Points)} (h : SettledFields fields) :
    IsPlain (jsonObject fields).toList := by
  have hmembers : IsPlain (", ".intercalate (fields.map jsonMember)).toList := by
    induction fields with
    | nil => exact isPlain_nil
    | cons field fields ih =>
      obtain ⟨hfield, hfields⟩ := List.forall_mem_cons.mp h
      cases fields with
      | nil =>
        rw [List.map_singleton, String.intercalate_singleton]
        exact isPlain_jsonMember hfield
      | cons other fields =>
        rw [intercalate_jsonMember, String.toList_append, String.toList_append]
        exact ((isPlain_jsonMember hfield).append (by decide)).append (ih hfields)
  rw [jsonObject_eq, String.toList_append, String.toList_append]
  exact (IsPlain.append (by decide) hmembers).append (by decide)

end NominalCheck.Text
