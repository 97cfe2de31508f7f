import Mathlib.Data.List.Chain
import ShaderTree.Proofs.SourceLines

/-!
# Operators stay apart

The text of an operator stands directly between the texts of its operands, and a number
may bring a sign of its own.  Two signs that met would be read as one: as a step, or as the
beginning of a comment.

`Operand.glyphs` and `Statement.glyphs` are the text of a tree character by character, where
each character remembers whether it was written for an operator, for a number or for
something else.  A text is `Sealed` if no two characters of operators are neighbours in it,
a minus of a number follows a parenthesis or the letter of a power of ten, and it neither
begins nor ends with the character of an operator.  Sealed texts can be put one after
another, and one character can be put between two of them; from this every tree is sealed,
node by node, and so `main` is written with its operators apart.
-/

namespace ShaderTree

open Glsl

open Text (isWordChar)

/-- The characters of which the operators are made. -/
def isOperatorChar (c : Char) : Bool := ['+', '-', '*', '/', '%'].contains c

/-- Whether a text has no character of an operator. -/
def isPlain (text : String) : Bool := text.toList.all (!isOperatorChar ·)

/-- What a character was written for. -/
inductive Origin where
  | operator
  | number
  | other
  deriving DecidableEq, Repr

/-- A character of a text with what it was written for. -/
structure Glyph where
  char : Char
  origin : Origin
  deriving DecidableEq, Repr

/-- A text that was written for one thing. -/
def spell (origin : Origin) (text : String) : List Glyph := text.toList.map (⟨·, origin⟩)

namespace Operand

mutual

/-- The text of an operand with what each character was written for. -/
def glyphs (output : String) : Operand → List Glyph
  | .var v => spell .other (v.spelling output)
  | .int n => spell .number (literalText (toString n.toInt))
  | .float x => spell .number (literalText (x.literal?.getD ""))
  | .bool b => spell .other (toString b)
  | .binop op left right =>
    spell .other "(" ++ left.glyphs output ++ spell .operator op.symbol ++ right.glyphs output ++
      spell .other ")"
  | .vector ty parts =>
    spell .other (ty.glslName?.getD "" ++ "(") ++ glyphsAll output "," parts ++ spell .other ")"
  | .swizzle source mask => source.glyphs output ++ spell .other ("." ++ mask)
  | .call f args =>
    spell .other (f.name ++ "(") ++ glyphsAll output ", " args ++ spell .other ")"

/-- The text of several operands, with a separator between them. -/
def glyphsAll (output separator : String) : List Operand → List Glyph
  | [] => []
  | [o] => o.glyphs output
  | o :: p :: rest =>
    o.glyphs output ++ spell .other separator ++ glyphsAll output separator (p :: rest)

end

end Operand

namespace Statement

mutual

/-- The text of a statement with what each character was written for. -/
def glyphs (output : String) : Statement → List Glyph
  | .block body => spell .other "\x7b" ++ glyphsAll output body ++ spell .other "\x7d"
  | .assign target source =>
    target.glyphs output ++ spell .other " = " ++ source.glyphs output ++ spell .other ";"
  | .ifThen condition body =>
    spell .other "if (" ++ condition.glyphs output ++ spell .other ") " ++ body.glyphs output
  | .ifThenElse condition body otherwise =>
    spell .other "if (" ++ condition.glyphs output ++ spell .other ") " ++ body.glyphs output ++
      spell .other " else " ++ otherwise.glyphs output

/-- The text of several statements, one directly after another. -/
def glyphsAll (output : String) : List Statement → List Glyph
  | [] => []
  | s :: rest => s.glyphs output ++ glyphsAll output rest

end

/-- The text of `main` with what each character was written for. -/
def mainGlyphs (stage : Stage) (s : Statement) : List Glyph :=
  spell .other ("void main() \x7b" ++
      String.join (s.temps.map fun t => declarationText "" t.ty t.name ";")) ++
    s.glyphs stage.outputName ++ spell .other "\x7d"

end Statement

section Characters

@[simp] theorem map_char_spell (origin : Origin) (text : String) :
    (spell origin text).map Glyph.char = text.toList := by
  simp [spell, Function.comp_def]

mutual

/-- Without what they were written for, the glyphs are the text. -/
theorem Operand.map_char_glyphs (output : String) : ∀ o : Operand,
    (o.glyphs output).map Glyph.char = (o.text output).toList
  | .var _ | .int _ | .float _ | .bool _ => by simp only [glyphs, text, map_char_spell]
  | .binop op left right => by
      simp only [glyphs, text, List.map_append, map_char_spell, String.toList_append,
        left.map_char_glyphs output, right.map_char_glyphs output]
  | .vector ty parts => by
      simp only [glyphs, text, List.map_append, map_char_spell, String.toList_append,
        map_char_glyphsAll output "," parts]
  | .swizzle source mask => by
      simp only [glyphs, text, List.map_append, map_char_spell, String.toList_append,
        source.map_char_glyphs output]
  | .call f args => by
      simp only [glyphs, text, List.map_append, map_char_spell, String.toList_append,
        map_char_glyphsAll output ", " args]

theorem Operand.map_char_glyphsAll (output separator : String) : ∀ os : List Operand,
    (glyphsAll output separator os).map Glyph.char = (textAll output separator os).toList
  | [] => by simp [glyphsAll, textAll]
  | [o] => by
      rw [glyphsAll, textAll]
      exact o.map_char_glyphs output
  | o :: p :: rest => by
      simp only [glyphsAll, textAll, List.map_append, map_char_spell, String.toList_append,
        o.map_char_glyphs output, map_char_glyphsAll output separator (p :: rest)]

end

mutual

theorem Statement.map_char_glyphs (output : String) : ∀ s : Statement,
    (s.glyphs output).map Glyph.char = (s.text output).toList
  | .block body => by
      simp only [glyphs, text, List.map_append, map_char_spell, String.toList_append,
        map_char_glyphsAll output body]
  | .assign target source => by
      simp only [glyphs, text, List.map_append, map_char_spell, String.toList_append,
        target.map_char_glyphs, source.map_char_glyphs]
  | .ifThen condition body => by
      simp only [glyphs, text, List.map_append, map_char_spell, String.toList_append,
        condition.map_char_glyphs, body.map_char_glyphs output]
  | .ifThenElse condition body otherwise => by
      simp only [glyphs, text, List.map_append, map_char_spell, String.toList_append,
        condition.map_char_glyphs, body.map_char_glyphs output, otherwise.map_char_glyphs output]

theorem Statement.map_char_glyphsAll (output : String) : ∀ body : List Statement,
    (glyphsAll output body).map Glyph.char = (textAll output body).toList
  | [] => by simp [glyphsAll, textAll]
  | s :: rest => by
      simp only [glyphsAll, textAll, List.map_append, String.toList_append,
        s.map_char_glyphs output, map_char_glyphsAll output rest]

end

theorem Statement.map_char_mainGlyphs (stage : Stage) (s : Statement) :
    (s.mainGlyphs stage).map Glyph.char = (s.mainLine stage).toList := by
  simp only [mainGlyphs, mainLine, List.map_append, map_char_spell, String.toList_append,
    s.map_char_glyphs]

end Characters

section Plain

variable {a b : String}

theorem isOperatorChar_of_isWordChar {c : Char} (hc : isWordChar c) :
    isOperatorChar c = false := by
  by_contra hop
  have hnone : ['+', '-', '*', '/', '%'].all (!isWordChar ·) := by decide
  rw [Bool.not_eq_false, isOperatorChar, List.contains_iff_mem] at hop
  have hword := List.all_eq_true.mp hnone c hop
  rw [hc] at hword
  cases hword

theorem isPlain_append : isPlain (a ++ b) ↔ isPlain a ∧ isPlain b := by
  simp [isPlain]

theorem isPlain_join {texts : List String} :
    isPlain (String.join texts) ↔ ∀ text ∈ texts, isPlain text := by
  simp [isPlain, String.toList_join]

theorem isPlain_of_isWordChar (h : ∀ c ∈ a.toList, isWordChar c) : isPlain a := by
  rw [isPlain, List.all_eq_true]
  intro c hc
  rw [isOperatorChar_of_isWordChar (h c hc)]
  rfl

theorem isPlain_of_isWord (h : isWord a) : isPlain a :=
  isPlain_of_isWordChar (isWordChar_of_isWord h)

theorem isPlain_spelling {v : Variable} (h : isPlain v.name) (stage : Stage) :
    isPlain (v.spelling stage.outputName) := by
  by_cases hv : v = .output
  · rw [hv]
    cases stage <;> decide
  · rwa [Variable.spelling_eq_name hv]

theorem isPlain_of_checkMask {ty : Ty} {mask : String} (h : fault? (checkMask ty mask) = none) :
    isPlain mask := by
  obtain ⟨c, cs, hmask, hall⟩ := exists_cons_of_checkMask h
  refine isPlain_of_isWordChar fun d hd => ?_
  rw [hmask] at hd
  exact (hall d hd).1

end Plain

/-- Whether a character may be written directly after another. -/
structure Glyph.MayFollow (x y : Glyph) : Prop where
  apart : ¬(isOperatorChar x.char ∧ isOperatorChar y.char)
  minus : y.char = '-' → y.origin ≠ .operator →
    x.char = '(' ∨ x.char = 'e' ∧ x.origin = .number

/-- A text in which the operators are kept apart and that is closed against them on both
sides. -/
structure Sealed (gs : List Glyph) : Prop where
  chain : gs.IsChain Glyph.MayFollow
  head : ∀ x ∈ gs.head?, isOperatorChar x.char = false
  last : ∀ x ∈ gs.getLast?, isOperatorChar x.char = false

section Sealed

variable {gs hs : List Glyph} {x y : Glyph}

theorem Glyph.mayFollow_of_plain (hy : isOperatorChar y.char = false) : x.MayFollow y := by
  refine ⟨fun h => ?_, fun hminus => ?_⟩
  · rw [hy] at h
    cases h.2
  · rw [hminus] at hy
    cases hy

theorem sealed_nil : Sealed [] := ⟨.nil, by simp, by simp⟩

theorem sealed_singleton (hx : isOperatorChar x.char = false) : Sealed [x] :=
  ⟨.singleton x, by simpa using hx, by simpa using hx⟩

theorem Sealed.append (hg : Sealed gs) (hh : Sealed hs) : Sealed (gs ++ hs) := by
  refine ⟨?_, ?_, ?_⟩
  · exact hg.chain.append hh.chain fun _ _ y hy => Glyph.mayFollow_of_plain (hh.head y hy)
  · intro x hx
    rw [List.head?_append, Option.mem_def, Option.or_eq_some_iff] at hx
    rcases hx with hx | hx
    · exact hg.head x hx
    · exact hh.head x hx.2
  · intro x hx
    rw [List.getLast?_append, Option.mem_def, Option.or_eq_some_iff] at hx
    rcases hx with hx | hx
    · exact hh.last x hx
    · exact hg.last x hx.2

theorem sealed_map (origin : Origin) {cs : List Char}
    (h : ∀ c ∈ cs, isOperatorChar c = false) : Sealed (cs.map (⟨·, origin⟩)) := by
  induction cs with
  | nil => exact sealed_nil
  | cons c cs ih =>
      rw [List.forall_mem_cons] at h
      exact (sealed_singleton (x := ⟨c, origin⟩) h.1).append (ih h.2)

/-- One character between two sealed texts, if it may follow the first. -/
theorem Sealed.insert (hg : Sealed gs) (hne : gs ≠ []) (hh : Sealed hs) (hne' : hs ≠ [])
    (hx : ∀ y ∈ gs.getLast?, y.MayFollow x) : Sealed (gs ++ x :: hs) := by
  refine ⟨?_, ?_, ?_⟩
  · have htail : (x :: hs).IsChain Glyph.MayFollow :=
      hh.chain.cons fun y hy => Glyph.mayFollow_of_plain (hh.head y hy)
    refine hg.chain.append htail fun y hy z hz => ?_
    rw [List.head?_cons, Option.mem_some] at hz
    exact hz ▸ hx y hy
  · rw [List.head?_append_of_ne_nil _ hne]
    exact hg.head
  · rw [List.append_cons, List.getLast?_append_of_ne_nil _ hne']
    exact hh.last

theorem sealed_spell (origin : Origin) {text : String} (h : isPlain text) :
    Sealed (spell origin text) := by
  refine sealed_map origin fun c hc => ?_
  simpa using List.all_eq_true.mp h c hc

/-- An operator between two sealed texts. -/
theorem Sealed.operator (hg : Sealed gs) (hne : gs ≠ []) (op : BinOp) (hh : Sealed hs)
    (hne' : hs ≠ []) : Sealed (gs ++ spell .operator op.symbol ++ hs) := by
  obtain ⟨c, hc, -⟩ := op.exists_toList_symbol
  rw [spell, hc, List.map_singleton, List.append_assoc, List.singleton_append]
  refine hg.insert hne hh hne' fun y hy => ⟨fun h => ?_, fun _ horigin => absurd rfl horigin⟩
  rw [hg.last y hy] at h
  cases h.1

/-- The minus of a number between two sealed texts. -/
theorem Sealed.minus (hg : Sealed (gs ++ [y]))
    (hy : y.char = '(' ∨ y.char = 'e' ∧ y.origin = .number) (hh : Sealed hs) (hne : hs ≠ []) :
    Sealed (gs ++ [y] ++ ⟨'-', .number⟩ :: hs) := by
  refine hg.insert (by simp) hh hne fun z hz => ?_
  have hplain := hg.last z hz
  rw [List.getLast?_concat, Option.mem_some] at hz
  subst hz
  refine ⟨fun h => ?_, fun _ _ => hy⟩
  rw [hplain] at h
  cases h.1

end Sealed

section Numbers

variable {cs : List Char}

/-- The characters of a number. -/
def numeral (cs : List Char) : List Glyph := cs.map (⟨·, .number⟩)

theorem AllDigits.plain (h : AllDigits cs) : ∀ c ∈ cs, isOperatorChar c = false := fun c hc =>
  isOperatorChar_of_isWordChar (isWordChar_of_isDigit (h c hc))

theorem FloatForm.sealed (h : FloatForm cs) : Sealed (numeral cs) := by
  cases h with
  | @positional whole fraction hwhole _ hfraction _ =>
      refine sealed_map .number ?_
      rw [List.forall_mem_append, List.forall_mem_cons]
      exact ⟨hwhole.plain, rfl, hfraction.plain⟩
  | @scientific digit fraction sign exponent hdigit hfraction hsign hexponent he =>
      have hexponent' : Sealed (numeral exponent) := sealed_map .number hexponent.plain
      have hpoint : ∀ c ∈ (if fraction = [] then [] else '.' :: fraction),
          isOperatorChar c = false := by
        split
        · exact List.forall_mem_nil _
        · exact List.forall_mem_cons.mpr ⟨rfl, hfraction.plain⟩
      -- the part up to the letter of the power, which is all that may stand before a minus
      have hpower : Sealed (numeral
          ((digit :: (if fraction = [] then [] else '.' :: fraction)) ++ ['e'])) := by
        refine sealed_map .number ?_
        rw [List.forall_mem_append, List.forall_mem_cons, List.forall_mem_singleton]
        exact ⟨⟨isOperatorChar_of_isWordChar (isWordChar_of_isDigit hdigit), hpoint⟩, rfl⟩
      rcases hsign with rfl | rfl
      · simpa [numeral] using hpower.append hexponent'
      · rw [numeral, List.map_append] at hpower
        have hminus := hpower.minus (.inr ⟨rfl, rfl⟩) hexponent' (by simpa [numeral] using he)
        simpa [numeral] using hminus

/-- A number is sealed by the parentheses around a sign. -/
theorem sealed_literalText {text : String} {sign digits : List Char}
    (htext : text.toList = sign ++ digits) (hsign : sign = [] ∨ sign = ['-'])
    (hdigits : Sealed (numeral digits)) : Sealed (spell .number (literalText text)) := by
  unfold literalText
  split
  · next hhead =>
      rcases hsign with rfl | rfl
      · -- without a sign the number itself would begin with a minus
        have hminus := hdigits.head ⟨'-', .number⟩ (by
          rw [numeral, List.head?_map]
          rw [htext, List.nil_append] at hhead
          rw [hhead]
          rfl)
        cases hminus
      · have hopen : Sealed ([] ++ [⟨'(', .number⟩]) := sealed_singleton rfl
        have hclose : Sealed [⟨')', .number⟩] := sealed_singleton rfl
        have hminus := hopen.minus (.inl rfl) (hdigits.append hclose) (by simp)
        simpa [spell, htext, numeral] using hminus
  · next hhead =>
      rcases hsign with rfl | rfl
      · simpa [spell, htext, numeral] using hdigits
      · exact absurd (by simp [htext]) hhead

theorem sealed_int (n : Int32) : Sealed (spell .number (literalText (toString n.toInt))) := by
  obtain ⟨sign, digits, hsign, hdigits, -, htext⟩ := exists_sign_digits n.toInt
  exact sealed_literalText htext hsign (sealed_map .number hdigits.plain)

theorem sealed_of_literal? {x : Binary32} {text : String} (hx : x.literal? = some text) :
    Sealed (spell .number (literalText text)) := by
  refine sealed_literalText (Binary32.toList_of_literal? hx) ?_ x.floatForm_magnitudeText.sealed
  cases x.isNegative
  · exact .inl rfl
  · exact .inr rfl

end Numbers

section Trees

variable {stage : Stage}

/-- A visit at which nothing offends and a name, if there is one, has no character of an
operator. -/
def Visit.IsPlain (stage : Stage) (v : Visit) : Prop :=
  v.offence? stage = none ∧ ∀ w ∈ v.mention?, isPlain w.name

mutual

theorem Operand.sealed_glyphs : ∀ {o : Operand}, (∀ v ∈ o.visits, v.IsPlain stage) →
    Sealed (o.glyphs stage.outputName)
  | .var v, h => by
      have hv := (h (.ofVariable v) (by simp [visits])).2 v (Visit.mention?_ofVariable v)
      exact sealed_spell .other (isPlain_spelling hv stage)
  | .int n, _ => sealed_int n
  | .float x, h => by
      obtain ⟨text, hx⟩ := exists_literal?_of_offence? (h (.float x) (by simp [visits])).1
      rw [glyphs, hx]
      exact sealed_of_literal? hx
  | .bool b, _ => sealed_spell .other (isPlain_of_isWord (isWord_toString_bool b))
  | .binop op left right, h => by
      simp only [visits, List.forall_mem_cons, List.forall_mem_append] at h
      obtain ⟨-, -, hleft, hright⟩ := h
      have hopen : Sealed (spell .other "(") := sealed_spell .other rfl
      have hclose : Sealed (spell .other ")") := sealed_spell .other rfl
      have hop := (hopen.append (sealed_glyphs hleft)).operator (by simp [spell]) op
        ((sealed_glyphs hright).append hclose) (by simp [spell])
      rw [glyphs, List.append_assoc _ (right.glyphs _)]
      exact hop
  | .vector ty parts, h => by
      simp only [visits, List.forall_mem_cons] at h
      obtain ⟨-, hvector, hparts⟩ := h
      obtain ⟨word, hword⟩ := exists_glslName?_of_offence? hvector.1
      have hopen : isPlain (word ++ "(") :=
        isPlain_append.mpr ⟨isPlain_of_isWord (Ty.isWord_of_glslName? hword), rfl⟩
      rw [glyphs, hword, Option.getD_some]
      exact ((sealed_spell .other hopen).append (sealed_glyphsAll rfl hparts)).append
        (sealed_spell .other rfl)
  | .swizzle source mask, h => by
      simp only [visits, List.forall_mem_cons] at h
      obtain ⟨-, hswizzle, hsource⟩ := h
      have hmask : isPlain ("." ++ mask) :=
        isPlain_append.mpr ⟨rfl, isPlain_of_checkMask hswizzle.1⟩
      exact (sealed_glyphs hsource).append (sealed_spell .other hmask)
  | .call f args, h => by
      simp only [visits, List.forall_mem_cons] at h
      obtain ⟨-, -, hargs⟩ := h
      have hopen : isPlain (f.name ++ "(") :=
        isPlain_append.mpr ⟨isPlain_of_isWord f.isWord_name, rfl⟩
      exact ((sealed_spell .other hopen).append (sealed_glyphsAll rfl hargs)).append
        (sealed_spell .other rfl)

theorem Operand.sealed_glyphsAll {separator : String} (hseparator : isPlain separator) :
    ∀ {os : List Operand}, (∀ v ∈ visitsAll os, v.IsPlain stage) →
      Sealed (glyphsAll stage.outputName separator os)
  | [], _ => sealed_nil
  | [o], h => by
      simp only [visitsAll, List.append_nil] at h
      exact sealed_glyphs h
  | o :: p :: rest, h => by
      rw [visitsAll, List.forall_mem_append] at h
      exact ((sealed_glyphs h.1).append (sealed_spell .other hseparator)).append
        (sealed_glyphsAll hseparator h.2)

end

mutual

/-- Every tree in which nothing offends and whose names are plain is sealed. -/
theorem Statement.sealed_glyphs : ∀ {s : Statement}, (∀ v ∈ s.visits, v.IsPlain stage) →
    Sealed (s.glyphs stage.outputName)
  | .block body, h => by
      simp only [visits, List.forall_mem_cons] at h
      obtain ⟨-, -, hbody⟩ := h
      exact ((sealed_spell .other rfl).append (sealed_glyphsAll hbody)).append
        (sealed_spell .other rfl)
  | .assign target source, h => by
      simp only [visits, List.forall_mem_cons, List.forall_mem_append] at h
      obtain ⟨-, -, htarget, hsource⟩ := h
      exact (((Operand.sealed_glyphs htarget).append (sealed_spell .other rfl)).append
        (Operand.sealed_glyphs hsource)).append (sealed_spell .other rfl)
  | .ifThen condition body, h => by
      simp only [visits, List.forall_mem_cons, List.forall_mem_append] at h
      obtain ⟨-, -, hcondition, hbody⟩ := h
      exact (((sealed_spell .other rfl).append (Operand.sealed_glyphs hcondition)).append
        (sealed_spell .other rfl)).append (sealed_glyphs hbody)
  | .ifThenElse condition body otherwise, h => by
      simp only [visits, List.forall_mem_cons, List.forall_mem_append] at h
      obtain ⟨-, -, ⟨hcondition, hbody⟩, hotherwise⟩ := h
      exact (((((sealed_spell .other rfl).append (Operand.sealed_glyphs hcondition)).append
        (sealed_spell .other rfl)).append (sealed_glyphs hbody)).append
          (sealed_spell .other rfl)).append (sealed_glyphs hotherwise)

theorem Statement.sealed_glyphsAll : ∀ {body : List Statement},
    (∀ v ∈ visitsAll body, v.IsPlain stage) → Sealed (glyphsAll stage.outputName body)
  | [], _ => sealed_nil
  | s :: rest, h => by
      rw [visitsAll, List.forall_mem_append] at h
      exact (sealed_glyphs h.1).append (sealed_glyphsAll h.2)

end

/-- `main` is sealed, the declarations of its temporaries included. -/
theorem Statement.sealed_mainGlyphs {s : Statement} (h : s.IsAccepted stage)
    (hname : ∀ v ∈ s.mentions, isPlain v.name) : Sealed (s.mainGlyphs stage) := by
  have htemp : ∀ t ∈ s.temps, isPlain (declarationText "" t.ty t.name ";") := by
    intro t ht
    have hdeclared : .temp t ∈ s.declared := List.mem_append_right _ (List.mem_map_of_mem ht)
    obtain ⟨word, hword⟩ := Option.isSome_iff_exists.mp (h.declarable _ hdeclared)
    have hword' : t.ty.glslName? = some word := hword
    have htname : isPlain t.name := hname (.temp t) (mem_declared.mp hdeclared).1
    simp only [declarationText, hword', Option.getD_some, isPlain_append]
    exact ⟨⟨⟨⟨rfl, isPlain_of_isWord (Ty.isWord_of_glslName? hword)⟩, rfl⟩, htname⟩, rfl⟩
  have hopen : isPlain ("void main() \x7b" ++
      String.join (s.temps.map fun t => declarationText "" t.ty t.name ";")) := by
    rw [isPlain_append, isPlain_join, List.forall_mem_map]
    exact ⟨rfl, htemp⟩
  have htext : Sealed (s.glyphs stage.outputName) := by
    refine sealed_glyphs fun v hv => ⟨h.unbroken v hv, fun w hw => hname w ?_⟩
    exact List.mem_filterMap.mpr ⟨v, hv, hw⟩
  exact ((sealed_spell .other hopen).append htext).append (sealed_spell .other rfl)

end Trees

/-- The operators in a text are kept apart: no two of their characters are neighbours, so none
of the longer signs of the language comes about, and a minus that was not written for an
operator directly follows a parenthesis or the letter of a power of ten. -/
structure KeepsApart (gs : List Glyph) : Prop where
  neighbours : ∀ (before after : List Char) (c d : Char),
    gs.map Glyph.char = before ++ c :: d :: after → ¬(isOperatorChar c ∧ isOperatorChar d)
  unfused : ∀ sign ∈ ["--", "++", "//", "/*"], ¬sign.toList <:+: gs.map Glyph.char
  minus : ∀ (before after : List Glyph) (x : Glyph), gs = before ++ x :: after →
    x.char = '-' → x.origin ≠ .operator →
      ∃ y ∈ before.getLast?, y.char = '(' ∨ y.char = 'e' ∧ y.origin = .number

section KeepsApart

variable {gs : List Glyph}

theorem Sealed.neighbours (h : Sealed gs) {before after : List Char} {c d : Char}
    (hsplit : gs.map Glyph.char = before ++ c :: d :: after) :
    ¬(isOperatorChar c ∧ isOperatorChar d) := by
  obtain ⟨_, pair, rfl, -, hpair⟩ := List.map_eq_append_iff.mp hsplit
  obtain ⟨x, rest, rfl, rfl, hrest⟩ := List.map_eq_cons_iff.mp hpair
  obtain ⟨y, _, rfl, rfl, -⟩ := List.map_eq_cons_iff.mp hrest
  exact (List.isChain_append_cons_cons.mp h.chain).2.1.apart

theorem Sealed.exists_before_minus (h : Sealed gs) {before after : List Glyph} {x : Glyph}
    (hsplit : gs = before ++ x :: after) (hx : x.char = '-') (horigin : x.origin ≠ .operator) :
    ∃ y ∈ before.getLast?, y.char = '(' ∨ y.char = 'e' ∧ y.origin = .number := by
  subst hsplit
  cases before using List.reverseRecOn with
  | nil =>
      -- a sealed text does not begin with a minus
      have hhead := h.head x rfl
      rw [hx] at hhead
      cases hhead
  | append_singleton before y =>
      rw [List.append_assoc, List.singleton_append] at h
      have hfollow := (List.isChain_append_cons_cons.mp h.chain).2.1
      exact ⟨y, List.getLast?_concat, hfollow.minus hx horigin⟩

theorem Sealed.keepsApart (h : Sealed gs) : KeepsApart gs := by
  refine ⟨fun _ _ _ _ => h.neighbours, ?_, fun _ _ _ => h.exists_before_minus⟩
  rintro sign hsign ⟨before, after, hsplit⟩
  have hpair : ∃ c d, sign.toList = [c, d] ∧ isOperatorChar c ∧ isOperatorChar d := by
    simp only [List.mem_cons, List.not_mem_nil, or_false] at hsign
    rcases hsign with rfl | rfl | rfl | rfl <;> exact ⟨_, _, rfl, rfl, rfl⟩
  obtain ⟨c, d, hsign, hoperators⟩ := hpair
  rw [hsign, List.append_assoc] at hsplit
  exact h.neighbours hsplit.symm hoperators

end KeepsApart

/-- The source of a tree ends with `main`, on a line of its own. -/
theorem sourceText_eq_append_mainLine (stage : Stage) (options : Options) (s : Statement) :
    sourceText options s.attributes s.uniforms s.varyings s.temps (s.text stage.outputName) =
      unlines (options.preambleLines ++ s.globals.map (·.declarationText ";")) ++
        s.mainLine stage ++ "\n" := by
  rw [sourceText_eq_unlines, Statement.sourceLines, unlines_append, String.append_assoc]
  simp [unlines, String.join]

namespace Glsl.Generator

/-- In the text of `main`, the last line of every source, the operators are kept apart. -/
theorem generate_keepsApart (g : Generator) (history : List Call) (root : Statement)
    (hname : ∀ v ∈ root.mentions, isWord v.name) (source : String)
    (h : ((g.serve history).generate root).value.1 = .ok source) :
    source = unlines (g.options.preambleLines ++ root.globals.map (·.declarationText ";")) ++
        root.mainLine g.stage ++ "\n" ∧
      (root.mainGlyphs g.stage).map Glyph.char = (root.mainLine g.stage).toList ∧
      KeepsApart (root.mainGlyphs g.stage) := by
  obtain ⟨haccepted, hsource⟩ := generate_eq_ok_iff.mp h
  have hplain : ∀ v ∈ root.mentions, isPlain v.name := fun v hv => isPlain_of_isWord (hname v hv)
  refine ⟨?_, root.map_char_mainGlyphs g.stage, ?_⟩
  · rw [← hsource]
    exact sourceText_eq_append_mainLine g.stage g.options root
  · exact (Statement.sealed_mainGlyphs haccepted hplain).keepsApart

/-- Negative numbers and powers on both sides of operators, and an operator after a name that
ends like the first part of a power. -/
theorem generate_keepsApart_powers :
    let shade : Operand := .var (.uniform ⟨"shade", .vec4⟩)
    let level : Operand := .var (.temp ⟨0, .float⟩)
    let tiny : Operand := .float ⟨0x33D6BF95⟩
    let negative : Operand := .float ⟨0xB3D6BF95⟩
    let root : Statement := .block
      [.assign level (.binop .sub (.int (-2147483648)) (.binop .mul (.int (-1)) (.int 3))),
        .ifThenElse (.bool true)
          (.assign .out (.vector .vec4
            [.binop .sub (.swizzle shade "x") negative, .call .sin [.binop .div tiny negative],
              .binop .add tiny (.binop .rem level level), .float .one]))
          (.assign .out (.swizzle (.binop .sub shade (.binop .sub shade shade)) "xyzw"))]
    let g : Generator := { stage := .fragment, options := { dialect := .es } }
    let main :=
      "void main() \x7bfloat temp0;\x7btemp0 = ((-2147483648)-((-1)*3));if (true) " ++
        "gl_FragColor = vec4((shade.x-(-1e-7)),sin((1e-7/(-1e-7))),(1e-7+(temp0%temp0)),1.0);" ++
        " else gl_FragColor = (shade-(shade-shade)).xyzw;\x7d\x7d"
    let source :=
      "precision mediump float;\nprecision mediump int;\nprecision lowp sampler2D;\n" ++
        "precision lowp samplerCube;\nuniform vec4 shade;\n" ++ main ++ "\n"
    (∀ v ∈ root.mentions, isWord v.name) ∧
      ((g.serve [.reset]).generate root).value.1 = .ok source ∧
      (root.mainGlyphs g.stage).map Glyph.char = main.toList ∧
      ⟨'-', .operator⟩ ∈ root.mainGlyphs g.stage ∧ ⟨'-', .number⟩ ∈ root.mainGlyphs g.stage ∧
      KeepsApart (root.mainGlyphs g.stage) := by
  intro shade level tiny negative root g main source
  have hname : ∀ v ∈ root.mentions, isWord v.name := by decide +kernel
  have hsource : ((g.serve [.reset]).generate root).value.1 = .ok source := by decide +kernel
  have hmain : root.mainLine g.stage = main := by decide +kernel
  obtain ⟨-, hchars, hapart⟩ := generate_keepsApart g [.reset] root hname source hsource
  rw [hmain] at hchars
  exact ⟨hname, hsource, hchars, by decide +kernel, by decide +kernel, hapart⟩

end Glsl.Generator

end ShaderTree
