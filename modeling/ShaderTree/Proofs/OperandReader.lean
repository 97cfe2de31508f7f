import Mathlib.Data.List.Infix
import ShaderTree.Proofs.Checks
import ShaderTree.Proofs.Lexing

/-!
# Reading operands

A reader goes over a text from left to right and gives the operand at its front,
in the shader's view, with what follows.  It knows from a `Vocabulary` which
variable a word stands for and which float a literal denotes; everything else is
told by the text itself.  A parenthesis before a sign opens a negative number and
any other a combination, a digit begins a number, and a word before a parenthesis
is a function or a constructor.

The reader recurses with fuel.  The text of an operand in which nothing offends,
before a text that `endsOperand`, is read back with any fuel that is at least the
size of the operand.
-/

namespace ShaderTree

open Glsl

open Text (isWordChar)

/-- The type that a word declares. -/
def Ty.ofWord? (word : String) : Option Ty :=
  [Ty.float, .vec2, .vec3, .vec4, .mat4, .sampler].find? (·.glslName? == some word)

theorem Ty.ofWord?_of_glslName? {ty : Ty} {word : String} (h : ty.glslName? = some word) :
    Ty.ofWord? word = some ty.shaderView := by
  cases ty <;> cases h <;> rfl

theorem Ty.isWord_of_glslName? {ty : Ty} {word : String} (h : ty.glslName? = some word) :
    isWord word := by
  cases ty <;> cases h <;> rfl

theorem Builtin.isWord_name (f : Builtin) : isWord f.name := by
  cases f <;> decide

theorem Builtin.ofName?_name (f : Builtin) : ofName? f.name = some f := by
  cases f <;> decide

/-- The word of a type is not the name of a function. -/
theorem Builtin.ofName?_of_glslName? {ty : Ty} {word : String} (h : ty.glslName? = some word) :
    ofName? word = none := by
  cases ty <;> cases h <;> decide

theorem BinOp.ofSymbol?_symbol (op : BinOp) : ofSymbol? op.symbol = some op := by
  cases op <;> decide

theorem isWord_toString_bool (b : Bool) : isWord (toString b) := by
  cases b <;> decide

/-- What a reader knows beforehand. -/
structure Vocabulary where
  /-- The variable that a word stands for. -/
  named? : String → Option Variable
  /-- The float that a literal denotes. -/
  float? : String → Option Binary32
  float?_of_literal? : ∀ x text, x.literal? = some text → float? text = some x

namespace Vocabulary

/-- The operand that a word is by itself. -/
def word? (k : Vocabulary) (word : String) : Option Operand :=
  if word = "true" then some (.bool true)
  else if word = "false" then some (.bool false)
  else (k.named? word).map .var

theorem word?_toString_bool (k : Vocabulary) (b : Bool) :
    k.word? (toString b) = some (.bool b) := by
  cases b <;> rfl

/-- The operand that a number is. A number of digits alone is an integer. -/
def number? (k : Vocabulary) (sign digits : List Char) : Option Operand :=
  if digits.all Char.isDigit then
    some (.int (.ofInt (integerValue (sign ++ digits))))
  else
    (k.float? (String.ofList (sign ++ digits))).map .float

/-- The vocabulary knows the view of `v` by the word that is written for it. -/
structure Knows (k : Vocabulary) (output : String) (v : Variable) : Prop where
  isWord : isWord (v.spelling output)
  word? : k.word? (v.spelling output) = some (.var v.shaderView)

/-- Visits at which nothing offends and every variable is known. -/
structure Legible (k : Vocabulary) (stage : Stage) (vs : List Visit) : Prop where
  sound : ∀ v ∈ vs, v.offence? stage = none
  known : ∀ v ∈ vs.filterMap Visit.mention?, k.Knows stage.outputName v

variable {k : Vocabulary} {stage : Stage} {v : Visit} {vs ws : List Visit}

theorem Legible.mono (h : k.Legible stage vs) (hws : ws ⊆ vs) : k.Legible stage ws := by
  refine ⟨fun v hv => h.sound v (hws hv), fun v hv => ?_⟩
  obtain ⟨w, hw, hwv⟩ := List.mem_filterMap.mp hv
  exact h.known v (List.mem_filterMap.mpr ⟨w, hws hw, hwv⟩)

theorem Legible.tail (h : k.Legible stage (v :: vs)) : k.Legible stage vs :=
  h.mono (List.subset_cons_self v vs)

theorem Legible.left (h : k.Legible stage (vs ++ ws)) : k.Legible stage vs :=
  h.mono (List.subset_append_left vs ws)

theorem Legible.right (h : k.Legible stage (vs ++ ws)) : k.Legible stage ws :=
  h.mono (List.subset_append_right vs ws)

theorem Legible.operand {o : Operand} : ∀ {os : List Operand}, o ∈ os →
    k.Legible stage (Operand.visitsAll os) → k.Legible stage o.visits
  | _ :: _, .head _, h => h.left
  | _ :: _, .tail _ ho, h => h.right.operand ho

theorem Legible.knows {v : Variable} (h : k.Legible stage (Operand.var v).visits) :
    k.Knows stage.outputName v :=
  h.known v (List.mem_filterMap.mpr
    ⟨.ofVariable v, by simp [Operand.visits], Visit.mention?_ofVariable v⟩)

end Vocabulary

/-- The text after a word, if it begins with it. -/
def expect (word : String) (cs : List Char) : Option (List Char) := cs.dropPrefix? word.toList

@[simp] theorem expect_append (word : String) (cs : List Char) :
    expect word (word.toList ++ cs) = some cs :=
  List.dropPrefix?_append_of_beq cs (beq_self_eq_true _)

theorem expect_cons_of_ne (word : String) {c d : Char} {cs ds : List Char}
    (hword : word.toList = c :: cs) (hne : d ≠ c) : expect word (d :: ds) = none := by
  simp [expect, hword, List.dropPrefix?, hne]

/-- Selections from an operand, as many as follow. -/
def readMasks (o : Operand) : List Char → Operand × List Char
  | '.' :: cs =>
    readMasks (.swizzle o (String.ofList (cs.takeWhile isWordChar))) (cs.dropWhile isWordChar)
  | cs => (o, cs)
termination_by cs => cs.length
decreasing_by
  have := (List.dropWhile_suffix isWordChar (l := cs)).length_le
  simp only [List.length_cons]
  omega

section Parts

variable (read : List Char → Option (Operand × List Char))

/-- Operands with a separator between them, up to a parenthesis that closes. -/
def readOperands (separator : String) : Nat → List Char → Option (List Operand × List Char)
  | 0, _ => none
  | n + 1, cs => do
    let (o, rest) ← read cs
    match rest with
    | ')' :: rest => return ([o], rest)
    | rest =>
      let rest ← expect separator rest
      let (os, rest) ← readOperands separator n rest
      return (o :: os, rest)

/-- Arguments up to a parenthesis that closes; there may be none. -/
def readArguments (separator : String) (n : Nat) : List Char → Option (List Operand × List Char)
  | ')' :: rest => some ([], rest)
  | cs => readOperands read separator n cs

/-- A function or a constructor, from its word on. -/
def readApplication (n : Nat) (word : String) (cs : List Char) : Option (Operand × List Char) :=
  match Builtin.ofName? word with
  | some f => (readArguments read ", " n cs).map fun p => (.call f p.1, p.2)
  | none => do
    let ty ← Ty.ofWord? word
    let (parts, rest) ← readArguments read "," n cs
    return (.vector ty parts, rest)

/-- Two operands around an operator, up to a parenthesis that closes. -/
def readBinop (cs : List Char) : Option (Operand × List Char) := do
  let (left, rest) ← read cs
  let op ← BinOp.ofSymbol? (String.ofList (rest.take 1))
  let (right, rest) ← read (rest.drop 1)
  let rest ← expect ")" rest
  return (.binop op left right, rest)

/-- A number after its sign. -/
def readNumber (k : Vocabulary) (sign cs : List Char) : Option (Operand × List Char) :=
  (k.number? sign (scanNumber cs).1).map (·, (scanNumber cs).2)

/-- A word, and its arguments if it is applied to some. -/
def readWord (k : Vocabulary) (n : Nat) (cs : List Char) : Option (Operand × List Char) :=
  let word := String.ofList (cs.takeWhile isWordChar)
  match cs.dropWhile isWordChar with
  | '(' :: rest => readApplication read n word rest
  | rest => (k.word? word).map (·, rest)

/-- An operand that is not a selection. -/
def readPrimary (k : Vocabulary) (n : Nat) : List Char → Option (Operand × List Char)
  | [] => none
  | '(' :: '-' :: cs => do
    let (o, rest) ← readNumber k ['-'] cs
    let rest ← expect ")" rest
    return (o, rest)
  | '(' :: cs => readBinop read cs
  | c :: cs => if c.isDigit then readNumber k [] (c :: cs) else readWord read k n (c :: cs)

end Parts

/-- The operand at the front of a text. -/
def readOperand (k : Vocabulary) : Nat → List Char → Option (Operand × List Char)
  | 0, _ => none
  | n + 1, cs => do
    let (o, rest) ← readPrimary (readOperand k n) k n cs
    return readMasks o rest

/-- Whether a character neither continues an operand nor selects from it. -/
def closesOperand (c : Char) : Bool := !isWordChar c && c != '(' && c != '.'

section Masks

variable {o : Operand} {c : Char} {rest : List Char}

theorem endsOperand_cons (hc : closesOperand c) (rest : List Char) : endsOperand (c :: rest) := by
  simp only [closesOperand, Bool.and_eq_true, bne_iff_ne, ne_eq] at hc
  unfold endsOperand
  split
  · rfl
  · next heq => exact absurd (List.cons.inj heq).1 hc.2
  · next heq =>
      cases heq
      simpa using hc.1

theorem readMasks_cons (hc : closesOperand c) (rest : List Char) :
    readMasks o (c :: rest) = (o, c :: rest) := by
  rw [readMasks]
  rintro cs ⟨⟩
  exact absurd hc (by decide)

theorem readMasks_point {mask : String} (hmask : ∀ c ∈ mask.toList, isWordChar c)
    (h : endsOperand rest) :
    readMasks o ('.' :: (mask.toList ++ rest)) = readMasks (.swizzle o mask) rest := by
  have hrest : ∀ c ∈ rest.head?, isWordChar c = false := fun c hc => (head_of_endsOperand h c hc).1
  rw [readMasks, takeWhile_run hmask hrest, dropWhile_run hmask hrest, String.ofList_toList]

end Masks

theorem isWordChar_of_mem_componentSets {set : List Char} {c : Char} (hset : set ∈ componentSets)
    (hc : c ∈ set) : isWordChar c ∧ c.isDigit = false := by
  have hall : componentSets.all fun s => s.all fun d => isWordChar d && !d.isDigit := rfl
  have hletter := List.all_eq_true.mp (List.all_eq_true.mp hall set hset) c hc
  simpa using hletter

/-- A mask that fits begins with a letter, and has only letters. -/
theorem exists_cons_of_checkMask {ty : Ty} {mask : String}
    (h : fault? (checkMask ty mask) = none) :
    ∃ c cs, mask.toList = c :: cs ∧ ∀ d ∈ c :: cs, isWordChar d ∧ d.isDigit = false := by
  obtain ⟨hpos, -, set, hset, hletters⟩ := selects_iff.mp (fault?_checkMask_eq_none_iff.mp h).2
  obtain ⟨c, cs, hmask⟩ := exists_cons_of_length hpos
  refine ⟨c, cs, hmask, fun d hd => ?_⟩
  exact isWordChar_of_mem_componentSets hset (List.mem_of_mem_take (hletters d (hmask ▸ hd)))

/-- A reader that gives an operand back from its text. -/
def ReadsBack (read : List Char → Option (Operand × List Char)) (output : String)
    (o : Operand) : Prop :=
  ∀ rest, endsOperand rest →
    read ((o.text output).toList ++ rest) = some (readMasks o.shaderView rest)

section Nodes

variable {read : List Char → Option (Operand × List Char)} {output : String}
  {k : Vocabulary} {stage : Stage} {n : Nat} {o : Operand} {rest : List Char}

theorem ReadsBack.close (h : ReadsBack read output o) {c : Char} (hc : closesOperand c)
    (rest : List Char) :
    read ((o.text output).toList ++ c :: rest) = some (o.shaderView, c :: rest) := by
  rw [h (c :: rest) (endsOperand_cons hc rest), readMasks_cons hc]

theorem ReadsBack.before (h : ReadsBack read output o) (word : String)
    (hword : word.toList.head?.any closesOperand) (rest : List Char) :
    read ((o.text output).toList ++ (word.toList ++ rest)) =
      some (o.shaderView, word.toList ++ rest) := by
  obtain ⟨c, hhead, hc⟩ := (Option.any_eq_true _ _).mp hword
  obtain ⟨cs, hcs⟩ := List.head?_eq_some_iff.mp hhead
  rw [hcs]
  exact h.close hc (cs ++ rest)

/-- Operands are read back from their texts with a separator between them. -/
theorem readOperands_textAll (separator : String) {c : Char} {cs : List Char}
    (hseparator : separator.toList = c :: cs) (hc : closesOperand c) (hne : c ≠ ')') :
    ∀ {os : List Operand} {n : Nat}, os ≠ [] → os.length ≤ n →
      (∀ o ∈ os, ReadsBack read output o) → ∀ rest,
        readOperands read separator n
          ((Operand.textAll output separator os).toList ++ ')' :: rest) =
            some (Operand.shaderViewAll os, rest)
  | [], _, hnil, _, _, _ => absurd rfl hnil
  | [o], n + 1, _, _, hos, rest => by
      have ho := (hos o List.mem_cons_self).close (c := ')') (by decide) rest
      simp [readOperands, Operand.textAll, Operand.shaderViewAll, ho]
  | o :: p :: os, n + 1, _, hlength, hos, rest => by
      have ih := readOperands_textAll separator hseparator hc hne (n := n)
        (List.cons_ne_nil p os) (by simpa using hlength)
        (fun q hq => hos q (List.mem_cons_of_mem _ hq)) rest
      have ho := (hos o List.mem_cons_self).close hc
        (cs ++ ((Operand.textAll output separator (p :: os)).toList ++ ')' :: rest))
      have hexpect := expect_append separator
        ((Operand.textAll output separator (p :: os)).toList ++ ')' :: rest)
      rw [hseparator, List.cons_append] at hexpect
      simp only [Operand.textAll, String.toList_append, List.append_assoc, hseparator,
        List.cons_append, readOperands, ho, Option.bind_eq_bind, Option.bind_some]
      split
      · next heq => exact absurd (List.cons.inj heq).1 hne
      · simp [hexpect, ih, Operand.shaderViewAll]

theorem readPrimary_cons {c : Char} (hc : c ≠ '(') (cs : List Char) :
    readPrimary read k n (c :: cs) =
      if c.isDigit then readNumber k [] (c :: cs) else readWord read k n (c :: cs) := by
  unfold readPrimary
  split
  · next heq => cases heq
  · next heq => exact absurd (List.cons.inj heq).1 hc
  · next heq => exact absurd (List.cons.inj heq).1 hc
  · next heq =>
      cases heq
      rfl

theorem readPrimary_of_isWord {word : String} (hword : isWord word) (rest : List Char) :
    readPrimary read k n (word.toList ++ rest) = readWord read k n (word.toList ++ rest) := by
  obtain ⟨c, cs, htext, hdigit, hall⟩ := exists_cons_of_isWord hword
  have hc : c ≠ '(' := by
    rintro rfl
    exact absurd (hall '(' List.mem_cons_self) (by decide)
  rw [htext, List.cons_append, readPrimary_cons hc, hdigit, if_neg Bool.false_ne_true]

theorem readPrimary_word {word : String} (hword : isWord word) (h : endsOperand rest) :
    readPrimary read k n (word.toList ++ rest) = (k.word? word).map (·, rest) := by
  have hall := isWordChar_of_isWord hword
  have hrest := head_of_endsOperand h
  have hend : ∀ c ∈ rest.head?, isWordChar c = false := fun c hc => (hrest c hc).1
  rw [readPrimary_of_isWord hword]
  simp only [readWord, takeWhile_run hall hend, dropWhile_run hall hend, String.ofList_toList]
  split
  · exact absurd rfl (hrest '(' rfl).2
  · rfl

theorem readPrimary_application {word : String} (hword : isWord word) (rest : List Char) :
    readPrimary read k n (word.toList ++ '(' :: rest) = readApplication read n word rest := by
  have hall := isWordChar_of_isWord hword
  have hopen : ∀ c ∈ ('(' :: rest).head?, isWordChar c = false := by
    rintro c ⟨⟩
    decide
  rw [readPrimary_of_isWord hword]
  simp only [readWord, takeWhile_run hall hopen, dropWhile_run hall hopen, String.ofList_toList]

/-- A number is read back with or without a sign. -/
theorem readPrimary_number {text : String} {sign digits : List Char}
    (hnumeral : IsNumeral text sign digits) (ho : k.number? sign digits = some o)
    (h : endsOperand rest) :
    readPrimary read k n ((literalText text).toList ++ rest) = some (o, rest) := by
  have hread : ∀ rest, endsOperand rest →
      readNumber k sign (digits ++ rest) = some (o, rest) := by
    intro rest h
    rw [readNumber, hnumeral.scan rest h, ho, Option.map_some]
  obtain ⟨htext, hsign, ⟨c, cs, rfl, hc⟩, -⟩ := hnumeral
  rcases hsign with rfl | rfl
  · have hminus : c ≠ '-' := by
      rintro rfl
      cases hc
    have hopen : c ≠ '(' := by
      rintro rfl
      cases hc
    have hplain : (literalText text).toList = c :: cs := by
      simp [literalText, htext, hminus]
    rw [hplain, List.cons_append, readPrimary_cons hopen, if_pos hc]
    exact hread rest h
  · have hclose : endsOperand (')' :: rest) := endsOperand_cons (by decide) rest
    have hexpect : expect ")" (')' :: rest) = some rest := expect_append ")" rest
    have hparentheses : (literalText text).toList ++ rest =
        '(' :: '-' :: (c :: cs ++ ')' :: rest) := by
      simp [literalText, htext]
    rw [hparentheses, readPrimary, hread _ hclose]
    simp [hexpect]

theorem readPrimary_int (m : Int32) (h : endsOperand rest) :
    readPrimary read k n (((Operand.int m).text output).toList ++ rest) = some (.int m, rest) := by
  obtain ⟨sign, digits, hnumeral, hdigits⟩ := exists_isNumeral_toString m.toInt
  have hall : digits.all Char.isDigit := List.all_eq_true.mpr hdigits
  refine readPrimary_number hnumeral ?_ h
  rw [Vocabulary.number?, if_pos hall, ← hnumeral.toList, integerValue_toString,
    Int32.ofInt_toInt]

theorem readPrimary_float {x : Binary32} {text : String} (hx : x.literal? = some text)
    (h : endsOperand rest) :
    readPrimary read k n (((Operand.float x).text output).toList ++ rest) =
      some (.float x, rest) := by
  have hnumeral := isNumeral_of_literal? hx
  rw [Operand.text, hx, Option.getD_some]
  refine readPrimary_number hnumeral ?_ h
  rw [Vocabulary.number?, all_isDigit_of_floatForm x.floatForm_magnitudeText,
    if_neg Bool.false_ne_true, ← hnumeral.toList, String.ofList_toList,
    k.float?_of_literal? x text hx, Option.map_some]

theorem BinOp.exists_toList_symbol (op : BinOp) :
    ∃ c, op.symbol.toList = [c] ∧ closesOperand c := by
  cases op
  · exact ⟨'+', rfl, by decide⟩
  · exact ⟨'-', rfl, by decide⟩
  · exact ⟨'*', rfl, by decide⟩
  · exact ⟨'/', rfl, by decide⟩
  · exact ⟨'%', rfl, by decide⟩

theorem readBinop_text (op : BinOp) {left right : Operand} (hleft : ReadsBack read output left)
    (hright : ReadsBack read output right) (rest : List Char) :
    readBinop read ((left.text output).toList ++ (op.symbol.toList ++
      ((right.text output).toList ++ ')' :: rest))) =
        some (.binop op left.shaderView right.shaderView, rest) := by
  obtain ⟨c, hsymbol, hc⟩ := op.exists_toList_symbol
  have hop : BinOp.ofSymbol? (String.ofList [c]) = some op := by
    rw [← hsymbol, String.ofList_toList, BinOp.ofSymbol?_symbol]
  have hclose := hright.close (c := ')') (by decide) rest
  have hexpect : expect ")" (')' :: rest) = some rest := expect_append ")" rest
  rw [hsymbol, List.singleton_append, readBinop, hleft.close hc]
  simp only [Option.bind_eq_bind, Option.bind_some, List.take_succ_cons, List.take_zero, hop,
    List.drop_succ_cons, List.drop_zero, hclose, hexpect]
  rfl

theorem exists_literal?_of_offence? {x : Binary32}
    (h : Visit.offence? stage (.float x) = none) : ∃ text, x.literal? = some text := by
  simp only [Visit.offence?] at h
  split at h
  · cases h
  · next hx =>
      have hfinite : x.isFinite := x.isFinite_iff.mpr (by simpa using hx)
      exact ⟨_, if_pos hfinite⟩

theorem exists_glslName?_of_offence? {ty : Ty} {parts : List Operand}
    (h : Visit.offence? stage (.vector ty parts) = none) : ∃ word, ty.glslName? = some word :=
  Option.isSome_iff_exists.mp (offence?_vector_eq_none_iff.mp h).1

theorem exists_cons_literalText {text : String} {sign digits : List Char}
    (hnumeral : IsNumeral text sign digits) :
    ∃ c cs, (literalText text).toList = c :: cs ∧ (c.isDigit ∨ c = '(') := by
  obtain ⟨htext, hsign, ⟨c, cs, rfl, hc⟩, -⟩ := hnumeral
  unfold literalText
  split
  · exact ⟨'(', _, by rw [String.append_assoc, String.toList_append]; rfl, .inr rfl⟩
  · next hminus =>
      rcases hsign with rfl | rfl
      · exact ⟨c, cs, htext, .inl hc⟩
      · exact absurd (by simp [htext]) hminus

/-- Every operand in which nothing offends begins with a word, a digit or a
parenthesis. -/
theorem Operand.exists_cons_text : ∀ {o : Operand}, k.Legible stage o.visits →
    ∃ c cs, (o.text stage.outputName).toList = c :: cs ∧ (isWordChar c ∨ c = '(')
  | .var v, h => by
      obtain ⟨c, cs, htext, -, hall⟩ := exists_cons_of_isWord h.knows.isWord
      exact ⟨c, cs, htext, .inl (hall c List.mem_cons_self)⟩
  | .int m, _ => by
      obtain ⟨sign, digits, hnumeral, -⟩ := exists_isNumeral_toString m.toInt
      obtain ⟨c, cs, htext, hc⟩ := exists_cons_literalText hnumeral
      exact ⟨c, cs, htext, hc.imp_left isWordChar_of_isDigit⟩
  | .float x, h => by
      obtain ⟨text, hx⟩ := exists_literal?_of_offence? (h.sound (.float x) (by simp [visits]))
      obtain ⟨c, cs, htext, hc⟩ := exists_cons_literalText (isNumeral_of_literal? hx)
      rw [Operand.text, hx, Option.getD_some]
      exact ⟨c, cs, htext, hc.imp_left isWordChar_of_isDigit⟩
  | .bool b, _ => by
      obtain ⟨c, cs, htext, -, hall⟩ := exists_cons_of_isWord (isWord_toString_bool b)
      exact ⟨c, cs, htext, .inl (hall c List.mem_cons_self)⟩
  | .binop op left right, _ => ⟨'(', _, by simp [text]; rfl, .inr rfl⟩
  | .vector ty parts, h => by
      obtain ⟨word, hword⟩ :=
        exists_glslName?_of_offence? (h.sound (.vector ty parts) (by simp [visits]))
      obtain ⟨c, cs, htext, -, hall⟩ := exists_cons_of_isWord (Ty.isWord_of_glslName? hword)
      exact ⟨c, _, by simp [text, hword, htext]; rfl, .inl (hall c List.mem_cons_self)⟩
  | .swizzle source mask, h => by
      rw [visits] at h
      obtain ⟨c, cs, htext, hc⟩ := exists_cons_text h.tail.tail
      exact ⟨c, cs ++ ("." ++ mask).toList, by simp [text, htext], hc⟩
  | .call f args, _ => by
      obtain ⟨c, cs, htext, -, hall⟩ := exists_cons_of_isWord f.isWord_name
      exact ⟨c, _, by simp [text, htext]; rfl, .inl (hall c List.mem_cons_self)⟩

theorem readArguments_textAll (separator : String) {c : Char} {cs : List Char}
    (hseparator : separator.toList = c :: cs) (hc : closesOperand c) (hne : c ≠ ')')
    {os : List Operand} (hos : ∀ o ∈ os, ReadsBack read stage.outputName o)
    (hlength : os.length ≤ n) (h : k.Legible stage (Operand.visitsAll os)) (rest : List Char) :
    readArguments read separator n
      ((Operand.textAll stage.outputName separator os).toList ++ ')' :: rest) =
        some (Operand.shaderViewAll os, rest) := by
  cases os with
  | nil => rfl
  | cons o os =>
      have hread :=
        readOperands_textAll separator hseparator hc hne (List.cons_ne_nil o os) hlength hos rest
      -- no operand begins with the parenthesis that would end an empty list
      obtain ⟨d, ds, hd, htext⟩ : ∃ d ds, d ≠ ')' ∧
          (Operand.textAll stage.outputName separator (o :: os)).toList = d :: ds := by
        rw [Operand.visitsAll] at h
        obtain ⟨d, ds, htext, hd⟩ := Operand.exists_cons_text h.left
        have hclose : d ≠ ')' := by
          rintro rfl
          revert hd
          decide
        cases os with
        | nil => exact ⟨d, ds, hclose, htext⟩
        | cons p os => exact ⟨d, _, hclose, by simp [Operand.textAll, htext]; rfl⟩
      rw [htext] at hread ⊢
      rw [← hread, List.cons_append, readArguments]
      rintro cs' ⟨⟩
      exact hd rfl

theorem readPrimary_call (f : Builtin) {args : List Operand}
    (hargs : ∀ o ∈ args, ReadsBack read stage.outputName o) (hlength : args.length ≤ n)
    (h : k.Legible stage (Operand.visitsAll args)) (rest : List Char) :
    readPrimary read k n (((Operand.call f args).text stage.outputName).toList ++ rest) =
      some ((Operand.call f args).shaderView, rest) := by
  have hread := readArguments_textAll ", " rfl (by decide) (by decide) hargs hlength h rest
  have htext : ((Operand.call f args).text stage.outputName).toList ++ rest = f.name.toList ++
      '(' :: ((Operand.textAll stage.outputName ", " args).toList ++ ')' :: rest) := by
    simp [Operand.text]
  rw [htext, readPrimary_application f.isWord_name, readApplication, f.ofName?_name]
  simp only [hread, Option.map_some, Operand.shaderView]

theorem readPrimary_vector {ty : Ty} {word : String} (hword : ty.glslName? = some word)
    {parts : List Operand} (hparts : ∀ o ∈ parts, ReadsBack read stage.outputName o)
    (hlength : parts.length ≤ n) (h : k.Legible stage (Operand.visitsAll parts))
    (rest : List Char) :
    readPrimary read k n (((Operand.vector ty parts).text stage.outputName).toList ++ rest) =
      some ((Operand.vector ty parts).shaderView, rest) := by
  have hread := readArguments_textAll "," rfl (by decide) (by decide) hparts hlength h rest
  have htext : ((Operand.vector ty parts).text stage.outputName).toList ++ rest = word.toList ++
      '(' :: ((Operand.textAll stage.outputName "," parts).toList ++ ')' :: rest) := by
    simp [Operand.text, hword]
  rw [htext, readPrimary_application (Ty.isWord_of_glslName? hword), readApplication,
    Builtin.ofName?_of_glslName? hword, Ty.ofWord?_of_glslName? hword]
  simp [hread, Operand.shaderView]

theorem readPrimary_binop {op : BinOp} {left right : Operand}
    (hleft : ReadsBack read stage.outputName left)
    (hright : ReadsBack read stage.outputName right) (h : k.Legible stage left.visits)
    (rest : List Char) :
    readPrimary read k n (((Operand.binop op left right).text stage.outputName).toList ++ rest) =
      some ((Operand.binop op left right).shaderView, rest) := by
  have hread := readBinop_text op hleft hright rest
  have htext : ((Operand.binop op left right).text stage.outputName).toList ++ rest =
      '(' :: ((left.text stage.outputName).toList ++ (op.symbol.toList ++
        ((right.text stage.outputName).toList ++ ')' :: rest))) := by
    simp [Operand.text]
  -- the left operand does not begin with a sign
  obtain ⟨c, cs, hcs, hc⟩ := Operand.exists_cons_text h
  rw [hcs] at hread
  rw [htext, hcs, List.cons_append, readPrimary]
  · rw [← List.cons_append, hread, Operand.shaderView]
  · rintro cs' ⟨⟩
    revert hc
    decide

theorem readsBack_swizzle {source : Operand} {mask : String}
    (hsource : ReadsBack read output source)
    (hmask : fault? (checkMask source.valueTy mask) = none) :
    ReadsBack read output (.swizzle source mask) := by
  intro rest hrest
  obtain ⟨c, cs, hcs, hall⟩ := exists_cons_of_checkMask hmask
  have hpoint : endsOperand ('.' :: (mask.toList ++ rest)) := by
    simp [hcs, endsOperand, (hall c List.mem_cons_self).2]
  have htext : ((Operand.swizzle source mask).text output).toList ++ rest =
      (source.text output).toList ++ '.' :: (mask.toList ++ rest) := by
    simp [Operand.text]
  rw [htext, hsource _ hpoint, readMasks_point _ hrest, Operand.shaderView]
  intro d hd
  rw [hcs] at hd
  exact (hall d hd).1

/-- What is read without selections is read with more fuel as a whole. -/
theorem readsBack_of_readPrimary
    (h : ∀ rest, endsOperand rest → readPrimary (readOperand k n) k n
      ((o.text output).toList ++ rest) = some (o.shaderView, rest)) :
    ReadsBack (readOperand k (n + 1)) output o := by
  intro rest hrest
  rw [readOperand, h rest hrest]
  rfl

end Nodes

theorem length_lt_sizeOf {α : Type} [SizeOf α] (l : List α) : l.length < sizeOf l := by
  induction l with
  | nil => simp
  | cons a l ih =>
      simp only [List.length_cons, List.cons.sizeOf_spec]
      omega

/-- The text of an operand is read back to its view. -/
theorem readOperand_text {k : Vocabulary} {stage : Stage} : ∀ {o : Operand} {n : Nat},
    sizeOf o ≤ n → k.Legible stage o.visits → ReadsBack (readOperand k n) stage.outputName o
  | o, 0, hn, _ => by cases o <;> simp at hn
  | .var v, n + 1, _, h => by
      refine readsBack_of_readPrimary fun rest hrest => ?_
      rw [Operand.text, readPrimary_word h.knows.isWord hrest, h.knows.word?, Option.map_some,
        Operand.shaderView]
  | .int m, n + 1, _, _ => readsBack_of_readPrimary fun rest hrest => readPrimary_int m hrest
  | .float x, n + 1, _, h => by
      obtain ⟨text, hx⟩ :=
        exists_literal?_of_offence? (h.sound (.float x) (by simp [Operand.visits]))
      exact readsBack_of_readPrimary fun rest hrest => readPrimary_float hx hrest
  | .bool b, n + 1, _, _ => by
      refine readsBack_of_readPrimary fun rest hrest => ?_
      rw [Operand.text, readPrimary_word (isWord_toString_bool b) hrest, k.word?_toString_bool,
        Option.map_some, Operand.shaderView]
  | .binop op left right, n + 1, hn, h => by
      simp only [Operand.binop.sizeOf_spec] at hn
      rw [Operand.visits] at h
      have hleft := readOperand_text (o := left) (n := n) (by omega) h.tail.tail.left
      have hright := readOperand_text (o := right) (n := n) (by omega) h.tail.tail.right
      exact readsBack_of_readPrimary fun rest _ =>
        readPrimary_binop hleft hright h.tail.tail.left rest
  | .vector ty parts, n + 1, hn, h => by
      simp only [Operand.vector.sizeOf_spec] at hn
      rw [Operand.visits] at h
      obtain ⟨word, hword⟩ := exists_glslName?_of_offence? (h.sound (.vector ty parts) (by simp))
      have hparts : ∀ o ∈ parts, ReadsBack (readOperand k n) stage.outputName o := by
        intro o ho
        have hsize := List.sizeOf_lt_of_mem ho
        exact readOperand_text (by omega) (h.tail.tail.operand ho)
      have hlength := length_lt_sizeOf parts
      exact readsBack_of_readPrimary fun rest _ =>
        readPrimary_vector hword hparts (by omega) h.tail.tail rest
  | .swizzle source mask, n + 1, hn, h => by
      simp only [Operand.swizzle.sizeOf_spec] at hn
      rw [Operand.visits] at h
      have hsource := readOperand_text (o := source) (n := n + 1) (by omega) h.tail.tail
      exact readsBack_swizzle hsource (h.sound (.swizzle source mask) (by simp))
  | .call f args, n + 1, hn, h => by
      simp only [Operand.call.sizeOf_spec] at hn
      rw [Operand.visits] at h
      have hargs : ∀ o ∈ args, ReadsBack (readOperand k n) stage.outputName o := by
        intro o ho
        have hsize := List.sizeOf_lt_of_mem ho
        exact readOperand_text (by omega) (h.tail.tail.operand ho)
      have hlength := length_lt_sizeOf args
      exact readsBack_of_readPrimary fun rest _ =>
        readPrimary_call f hargs (by omega) h.tail.tail rest

end ShaderTree
