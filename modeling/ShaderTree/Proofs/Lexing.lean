import ShaderTree.Glsl.Typing
import ShaderTree.Text.CharClass
import ShaderTree.Proofs.LiteralText
import ShaderTree.Proofs.ShaderView

/-!
# Words and numbers at the front of a text

A word is a run of letters, digits and underscores.  `scanNumber` splits a number
off the front of a text, with its fraction and its power of ten if it has them.

What is written after an operand never continues it: the text there begins
neither with a character of a word nor with a parenthesis that opens, and after a
point there stands no digit.  Such a text `endsOperand`, and in front of it every
word and every number is split off whole.
-/

namespace ShaderTree

namespace Glsl

open Text (isWordChar)

/-- Whether a text is one word that does not begin with a digit. -/
def isWord (text : String) : Bool :=
  match text.toList with
  | [] => false
  | c :: cs => (c.isAlpha || c == '_') && cs.all isWordChar

/-- Whether a word can be the name of a variable. The two truth values and the
words of the shading language's own variables cannot. -/
def isIdentifier (name : String) : Bool :=
  isWord name && name != "true" && name != "false" && !"gl_".toList.isPrefixOf name.toList

/-- The digits after a point, with the point. -/
def scanFraction : List Char → List Char × List Char
  | '.' :: cs =>
    match cs.takeWhile Char.isDigit with
    | [] => ([], '.' :: cs)
    | digits => ('.' :: digits, cs.dropWhile Char.isDigit)
  | cs => ([], cs)

/-- A power of ten. -/
def scanExponent : List Char → List Char × List Char
  | 'e' :: '-' :: cs => ('e' :: '-' :: cs.takeWhile Char.isDigit, cs.dropWhile Char.isDigit)
  | 'e' :: cs => ('e' :: cs.takeWhile Char.isDigit, cs.dropWhile Char.isDigit)
  | cs => ([], cs)

/-- A number without a sign, and what follows it. -/
def scanNumber (cs : List Char) : List Char × List Char :=
  let fraction := scanFraction (cs.dropWhile Char.isDigit)
  let exponent := scanExponent fraction.2
  (cs.takeWhile Char.isDigit ++ (fraction.1 ++ exponent.1), exponent.2)

/-- Whether a text cannot continue an operand that is written before it. -/
def endsOperand : List Char → Bool
  | [] => true
  | '.' :: c :: _ => !c.isDigit
  | c :: _ => !isWordChar c && c != '('

theorem isIdentifier_iff {name : String} :
    isIdentifier name ↔ isWord name ∧ name ≠ "true" ∧ name ≠ "false" ∧
      "gl_".toList.isPrefixOf name.toList = false := by
  simp only [isIdentifier, Bool.and_eq_true, bne_iff_ne, ne_eq, Bool.not_eq_true', and_assoc]

theorem isDigit_eq_false_of_isAlpha {c : Char} (h : c.isAlpha) : c.isDigit = false := by
  delta Char.isAlpha Char.isUpper Char.isLower at h
  simp only [Bool.or_eq_true, Bool.and_eq_true, decide_eq_true_eq, ge_iff_le,
    UInt32.le_iff_toNat_le] at h
  simp only [Char.isDigit, Bool.and_eq_false_iff, decide_eq_false_iff_not, ge_iff_le,
    UInt32.le_iff_toNat_le]
  have hupper : 'A'.val.toNat = 65 := rfl
  have hlower : 'a'.val.toNat = 97 := rfl
  have hnine : '9'.val.toNat = 57 := rfl
  omega

/-- A word begins with a character that is not a digit, and has no others than
those of words. -/
theorem exists_cons_of_isWord {text : String} (h : isWord text) :
    ∃ c cs, text.toList = c :: cs ∧ c.isDigit = false ∧ ∀ d ∈ c :: cs, isWordChar d := by
  unfold isWord at h
  split at h
  · cases h
  · next c cs htext =>
      simp only [Bool.and_eq_true, Bool.or_eq_true, beq_iff_eq, List.all_eq_true] at h
      obtain ⟨hc, hcs⟩ := h
      refine ⟨c, cs, htext, ?_, ?_⟩
      · rcases hc with hc | rfl
        · exact isDigit_eq_false_of_isAlpha hc
        · decide
      · intro d hd
        rcases List.mem_cons.mp hd with rfl | hd
        · rcases hc with hc | rfl
          · simp [isWordChar, Char.isAlphanum, hc]
          · decide
        · exact hcs d hd

theorem isWordChar_of_isWord {text : String} (h : isWord text) :
    ∀ c ∈ text.toList, isWordChar c := by
  obtain ⟨c, cs, htext, -, hall⟩ := exists_cons_of_isWord h
  rw [htext]
  exact hall

theorem isWordChar_of_isDigit {c : Char} (h : c.isDigit) : isWordChar c := by
  simp [isWordChar, Char.isAlphanum, h]

section Runs

variable {p : Char → Bool} {as rest : List Char}

/-- A run of characters is split off whole in front of one that does not belong
to it. -/
theorem takeWhile_run (has : ∀ c ∈ as, p c) (hrest : ∀ c ∈ rest.head?, p c = false) :
    (as ++ rest).takeWhile p = as := by
  rw [List.takeWhile_append_of_pos has]
  cases rest with
  | nil => simp
  | cons c rest =>
      have hc := hrest c rfl
      simp [hc]

theorem dropWhile_run (has : ∀ c ∈ as, p c) (hrest : ∀ c ∈ rest.head?, p c = false) :
    (as ++ rest).dropWhile p = rest := by
  have hsplit := (as ++ rest).takeWhile_append_dropWhile (p := p)
  rw [takeWhile_run has hrest] at hsplit
  exact List.append_cancel_left hsplit

end Runs

section Ends

variable {rest : List Char}

theorem head_of_endsOperand (h : endsOperand rest) :
    ∀ c ∈ rest.head?, isWordChar c = false ∧ c ≠ '(' := by
  intro c hc
  unfold endsOperand at h
  split at h
  · cases hc
  · cases hc
    decide
  · cases hc
    simpa using h

theorem isDigit_head_of_endsOperand (h : endsOperand rest) :
    ∀ c ∈ rest.head?, c.isDigit = false := by
  intro c hc
  have hword := (head_of_endsOperand h c hc).1
  cases hdigit : c.isDigit with
  | false => rfl
  | true => rw [isWordChar_of_isDigit hdigit] at hword; cases hword

theorem scanFraction_of_endsOperand (h : endsOperand rest) : scanFraction rest = ([], rest) := by
  unfold scanFraction
  split
  · next cs =>
      cases cs with
      | nil => rfl
      | cons c cs =>
          have hc : c.isDigit = false := by simpa [endsOperand] using h
          simp [hc]
  · rfl

theorem scanExponent_of_endsOperand (h : endsOperand rest) : scanExponent rest = ([], rest) := by
  have hhead := head_of_endsOperand h
  unfold scanExponent
  split
  · exact absurd (hhead 'e' rfl).1 (by decide)
  · exact absurd (hhead 'e' rfl).1 (by decide)
  · rfl

theorem scanFraction_point {digits : List Char} (hdigits : AllDigits digits) (hne : digits ≠ [])
    (hrest : ∀ c ∈ rest.head?, c.isDigit = false) :
    scanFraction ('.' :: (digits ++ rest)) = ('.' :: digits, rest) := by
  obtain ⟨c, cs, rfl⟩ := List.exists_cons_of_ne_nil hne
  simp only [scanFraction, takeWhile_run hdigits hrest, dropWhile_run hdigits hrest]

theorem scanExponent_power {sign digits : List Char} (hsign : sign = [] ∨ sign = ['-'])
    (hdigits : AllDigits digits) (hne : digits ≠ [])
    (hrest : ∀ c ∈ rest.head?, c.isDigit = false) :
    scanExponent ('e' :: (sign ++ digits ++ rest)) = ('e' :: (sign ++ digits), rest) := by
  rcases hsign with rfl | rfl
  · obtain ⟨c, cs, rfl⟩ := List.exists_cons_of_ne_nil hne
    have hminus : c ≠ '-' := by
      rintro rfl
      exact absurd (hdigits '-' List.mem_cons_self) (by decide)
    have htake := takeWhile_run hdigits hrest
    have hdrop := dropWhile_run hdigits hrest
    simp only [List.nil_append, List.cons_append] at htake hdrop ⊢
    rw [scanExponent, htake, hdrop]
    rintro cs' ⟨⟩
    exact hminus rfl
  · simp [scanExponent, takeWhile_run hdigits hrest, dropWhile_run hdigits hrest]

/-- Digits alone are split off as a number. -/
theorem scanNumber_digits {digits : List Char} (hdigits : AllDigits digits)
    (h : endsOperand rest) : scanNumber (digits ++ rest) = (digits, rest) := by
  have hrest := isDigit_head_of_endsOperand h
  simp [scanNumber, takeWhile_run hdigits hrest, dropWhile_run hdigits hrest,
    scanFraction_of_endsOperand h, scanExponent_of_endsOperand h]

/-- A magnitude is split off as a number. -/
theorem scanNumber_floatForm {cs : List Char} (hcs : FloatForm cs) (h : endsOperand rest) :
    scanNumber (cs ++ rest) = (cs, rest) := by
  have hrest := isDigit_head_of_endsOperand h
  cases hcs with
  | @positional whole fraction hwhole hw hfraction hf =>
      have hpoint : ∀ c ∈ ('.' :: (fraction ++ rest)).head?, c.isDigit = false := by simp
      rw [List.append_assoc, List.cons_append]
      simp [scanNumber, takeWhile_run hwhole hpoint, dropWhile_run hwhole hpoint,
        scanFraction_point hfraction hf hrest, scanExponent_of_endsOperand h]
  | @scientific digit fraction sign exponent hdigit hfraction hsign hexponent he =>
      have hwhole : AllDigits [digit] := by simpa [AllDigits] using hdigit
      have hpower := scanExponent_power hsign hexponent he hrest
      have hletter : ∀ c ∈ ('e' :: (sign ++ exponent ++ rest)).head?, c.isDigit = false := by simp
      by_cases hf : fraction = []
      · have hsplit : digit :: ((if fraction = [] then [] else '.' :: fraction) ++
            'e' :: (sign ++ exponent)) ++ rest =
              [digit] ++ 'e' :: (sign ++ exponent ++ rest) := by simp [hf]
        rw [hsplit, scanNumber, takeWhile_run hwhole hletter, dropWhile_run hwhole hletter]
        have hnone : scanFraction ('e' :: (sign ++ exponent ++ rest)) =
            ([], 'e' :: (sign ++ exponent ++ rest)) := rfl
        simp only [hnone, hpower]
        simp [hf]
      · have hsplit : digit :: ((if fraction = [] then [] else '.' :: fraction) ++
            'e' :: (sign ++ exponent)) ++ rest =
              [digit] ++ '.' :: (fraction ++ 'e' :: (sign ++ exponent ++ rest)) := by simp [hf]
        have hpoint : ∀ c ∈ ('.' :: (fraction ++ 'e' :: (sign ++ exponent ++ rest))).head?,
            c.isDigit = false := by simp
        rw [hsplit, scanNumber, takeWhile_run hwhole hpoint, dropWhile_run hwhole hpoint]
        simp only [scanFraction_point hfraction hf hletter, hpower]
        simp [hf]

end Ends

/-- A number as it is written: digits that may follow a sign, split off whole
before a text that cannot continue them. -/
structure IsNumeral (text : String) (sign digits : List Char) : Prop where
  toList : text.toList = sign ++ digits
  sign : sign = [] ∨ sign = ['-']
  head : ∃ c cs, digits = c :: cs ∧ c.isDigit
  scan : ∀ rest, endsOperand rest → scanNumber (digits ++ rest) = (digits, rest)

theorem exists_isNumeral_toString (e : Int) :
    ∃ sign digits, IsNumeral (toString e) sign digits ∧ AllDigits digits := by
  obtain ⟨sign, digits, hsign, hdigits, hne, htext⟩ := exists_sign_digits e
  obtain ⟨c, cs, rfl⟩ := List.exists_cons_of_ne_nil hne
  have hhead : c.isDigit := hdigits c List.mem_cons_self
  exact ⟨sign, c :: cs, ⟨htext, hsign, ⟨c, cs, rfl, hhead⟩, fun _ h => scanNumber_digits hdigits h⟩,
    hdigits⟩

theorem isNumeral_of_literal? {x : Binary32} {text : String} (hx : x.literal? = some text) :
    IsNumeral text (if x.isNegative then ['-'] else []) x.magnitudeText := by
  have hform := x.floatForm_magnitudeText
  refine ⟨Binary32.toList_of_literal? hx, ?_, hform.exists_cons,
    fun _ h => scanNumber_floatForm hform h⟩
  cases x.isNegative
  · exact .inl rfl
  · exact .inr rfl

/-- A magnitude is never written with digits alone. -/
theorem all_isDigit_of_floatForm {cs : List Char} (hcs : FloatForm cs) :
    cs.all Char.isDigit = false := by
  cases hcs with
  | positional => simp
  | scientific => simp

end Glsl

end ShaderTree
