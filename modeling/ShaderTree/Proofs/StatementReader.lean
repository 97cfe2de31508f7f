import ShaderTree.Proofs.OperandReader

/-!
# Reading statements

A statement is a block, an assignment or a conditional, and the text tells which:
a block opens with a brace, and a conditional cannot be read as an assignment.
An `else` goes to the nearest conditional before it that has none.

A tree is `WellNested` if this rule gives every `else` back to its owner, that is,
if no statement before an `else` ends in a conditional that would take it.  The
text of such a tree is read back to its view.
-/

namespace ShaderTree

open Glsl

open Text (isWordChar)

section Parts

variable (k : Vocabulary) (n : Nat)

/-- An assignment, up to its semicolon. -/
def readAssignment (cs : List Char) : Option (Statement × List Char) := do
  let (target, rest) ← readOperand k n cs
  let rest ← expect " = " rest
  let (source, rest) ← readOperand k n rest
  let rest ← expect ";" rest
  return (.assign target source, rest)

variable (read : List Char → Option (Statement × List Char))

/-- A conditional, with the `else` that follows it, if one does. -/
def readConditional (cs : List Char) : Option (Statement × List Char) := do
  let rest ← expect "if (" cs
  let (condition, rest) ← readOperand k n rest
  let rest ← expect ") " rest
  let (body, rest) ← read rest
  match expect " else " rest with
  | none => return (.ifThen condition body, rest)
  | some rest =>
    let (otherwise, rest) ← read rest
    return (.ifThenElse condition body otherwise, rest)

/-- Statements up to the brace that closes their block. -/
def readBody : Nat → List Char → Option (List Statement × List Char)
  | 0, _ => none
  | _ + 1, '\x7d' :: rest => some ([], rest)
  | n + 1, cs => do
    let (s, rest) ← read cs
    let (body, rest) ← readBody n rest
    return (s :: body, rest)

end Parts

/-- The statement at the front of a text. -/
def readStatement (k : Vocabulary) : Nat → List Char → Option (Statement × List Char)
  | 0, _ => none
  | n + 1, '\x7b' :: cs => (readBody (readStatement k n) n cs).map fun p => (.block p.1, p.2)
  | n + 1, cs => (readAssignment k n cs).or (readConditional k n (readStatement k n) cs)

theorem Vocabulary.Legible.statement {k : Vocabulary} {stage : Stage} {s : Statement} :
    ∀ {body : List Statement}, s ∈ body → k.Legible stage (Statement.visitsAll body) →
      k.Legible stage s.visits
  | _ :: _, .head _, h => h.left
  | _ :: _, .tail _ hs, h => h.right.statement hs

namespace Statement

/-- Whether an `else` after the statement would become part of it. -/
def endsOpen : Statement → Bool
  | .block _ => false
  | .assign _ _ => false
  | .ifThen _ _ => true
  | .ifThenElse _ _ otherwise => otherwise.endsOpen

/-- Every `else` of the statement goes to its owner. -/
inductive WellNested : Statement → Prop where
  | block {body : List Statement} (hbody : ∀ s ∈ body, s.WellNested) : WellNested (.block body)
  | assign (target source : Operand) : WellNested (.assign target source)
  | ifThen {condition : Operand} {body : Statement} (hbody : body.WellNested) :
      WellNested (.ifThen condition body)
  | ifThenElse {condition : Operand} {body otherwise : Statement} (hbody : body.WellNested)
      (hclosed : body.endsOpen = false) (hotherwise : otherwise.WellNested) :
      WellNested (.ifThenElse condition body otherwise)

end Statement

/-- A reader that gives a statement back from its text. An `else` may follow the
text only if the statement would not take it. -/
def StatementReadsBack (read : List Char → Option (Statement × List Char)) (output : String)
    (s : Statement) : Prop :=
  ∀ rest, (s.endsOpen → expect " else " rest = none) →
    read ((s.text output).toList ++ rest) = some (s.shaderView, rest)

section Statements

variable {k : Vocabulary} {stage : Stage} {output : String} {n : Nat}
  {read : List Char → Option (Statement × List Char)}

/-- What begins a conditional is not read as an assignment, even if a variable is
called `if`. -/
theorem readAssignment_if (cs : List Char) : readAssignment k n ("if (".toList ++ cs) = none := by
  cases n with
  | zero => rfl
  | succ n =>
      have hword : isWord "if" := by decide
      have hspace : closesOperand ' ' := by decide
      have hread : readPrimary (readOperand k n) k n ("if".toList ++ ' ' :: '(' :: cs) = _ :=
        readPrimary_word hword (endsOperand_cons hspace ('(' :: cs))
      change readAssignment k (n + 1) ("if".toList ++ ' ' :: '(' :: cs) = none
      rw [readAssignment, readOperand, hread]
      cases k.word? "if" with
      | none => rfl
      | some o =>
          simp only [Option.map_some, Option.bind_eq_bind, Option.bind_some, Option.pure_def,
            readMasks_cons hspace]
          rfl

theorem readAssignment_text {target source : Operand}
    (htarget : ReadsBack (readOperand k n) output target)
    (hsource : ReadsBack (readOperand k n) output source) (rest : List Char) :
    readAssignment k n (((Statement.assign target source).text output).toList ++ rest) =
      some ((Statement.assign target source).shaderView, rest) := by
  have hequals := htarget.before " = " (by decide)
    ((source.text output).toList ++ (";".toList ++ rest))
  have hend := hsource.before ";" (by decide) rest
  simp only [Statement.text, String.toList_append, List.append_assoc, readAssignment, hequals,
    hend, expect_append, Option.bind_eq_bind, Option.bind_some, Option.pure_def,
    Statement.shaderView]

theorem readConditional_ifThen {condition : Operand} {body : Statement}
    (hcondition : ReadsBack (readOperand k n) output condition)
    (hbody : StatementReadsBack read output body) {rest : List Char}
    (hrest : expect " else " rest = none) :
    readConditional k n read (((Statement.ifThen condition body).text output).toList ++ rest) =
      some ((Statement.ifThen condition body).shaderView, rest) := by
  have hclose := hcondition.before ") " (by decide) ((body.text output).toList ++ rest)
  simp only [Statement.text, String.toList_append, List.append_assoc, readConditional,
    expect_append, hclose, hbody rest fun _ => hrest, hrest, Option.bind_eq_bind,
    Option.bind_some, Option.pure_def, Statement.shaderView]

theorem readConditional_ifThenElse {condition : Operand} {body otherwise : Statement}
    (hcondition : ReadsBack (readOperand k n) output condition)
    (hbody : StatementReadsBack read output body) (hclosed : body.endsOpen = false)
    (hotherwise : StatementReadsBack read output otherwise) {rest : List Char}
    (hrest : otherwise.endsOpen → expect " else " rest = none) :
    readConditional k n read
      (((Statement.ifThenElse condition body otherwise).text output).toList ++ rest) =
        some ((Statement.ifThenElse condition body otherwise).shaderView, rest) := by
  have hclose := hcondition.before ") " (by decide)
    ((body.text output).toList ++ (" else ".toList ++ ((otherwise.text output).toList ++ rest)))
  have hinner := hbody (" else ".toList ++ ((otherwise.text output).toList ++ rest))
    fun hopen => by simp [hclosed] at hopen
  simp only [Statement.text, String.toList_append, List.append_assoc, readConditional,
    expect_append, hclose, hinner, hotherwise rest hrest, Option.bind_eq_bind,
    Option.bind_some, Option.pure_def, Statement.shaderView]

/-- A statement in which nothing offends begins like an operand or with a brace. -/
theorem Statement.exists_cons_text {s : Statement} (h : k.Legible stage s.visits) :
    ∃ c cs, (s.text stage.outputName).toList = c :: cs ∧
      (isWordChar c ∨ c = '(' ∨ c = '\x7b') := by
  cases s with
  | block body => exact ⟨'\x7b', _, by simp [text]; rfl, .inr (.inr rfl)⟩
  | assign target source =>
      rw [visits] at h
      obtain ⟨c, cs, htext, hc⟩ := Operand.exists_cons_text h.tail.tail.left
      refine ⟨c, _, by simp [text, htext]; rfl, ?_⟩
      rcases hc with hc | hc
      · exact .inl hc
      · exact .inr (.inl hc)
  | ifThen condition body => exact ⟨'i', _, by simp [text]; rfl, .inl (by decide)⟩
  | ifThenElse condition body otherwise =>
      exact ⟨'i', _, by simp [text]; rfl, .inl (by decide)⟩

/-- Between the statements of a block, and at its end, there is no `else`. -/
theorem expect_else_textAll {body : List Statement}
    (h : k.Legible stage (Statement.visitsAll body)) (rest : List Char) :
    expect " else " ((Statement.textAll stage.outputName body).toList ++ '\x7d' :: rest) =
      none := by
  cases body with
  | nil => exact expect_cons_of_ne " else " rfl (by decide)
  | cons s body =>
      rw [Statement.visitsAll] at h
      obtain ⟨c, cs, htext, hc⟩ := Statement.exists_cons_text h.left
      simp only [Statement.textAll, String.toList_append, htext, List.cons_append]
      refine expect_cons_of_ne " else " rfl ?_
      rintro rfl
      revert hc
      decide

theorem readBody_text : ∀ {body : List Statement} {n : Nat}, body.length < n →
    (∀ s ∈ body, StatementReadsBack read stage.outputName s) →
      k.Legible stage (Statement.visitsAll body) → ∀ rest,
        readBody read n
          ((Statement.textAll stage.outputName body).toList ++ '\x7d' :: rest) =
            some (Statement.shaderViewAll body, rest)
  | [], n + 1, _, _, _, rest => rfl
  | s :: body, n + 1, hn, hbody, h, rest => by
      rw [Statement.visitsAll] at h
      have ih := readBody_text (n := n) (by simpa using hn)
        (fun t ht => hbody t (List.mem_cons_of_mem _ ht)) h.right rest
      have hs := hbody s List.mem_cons_self _ fun _ => expect_else_textAll h.right rest
      obtain ⟨c, cs, htext, hc⟩ := Statement.exists_cons_text h.left
      simp only [Statement.textAll, String.toList_append, List.append_assoc]
      rw [htext] at hs ⊢
      rw [List.cons_append, readBody]
      · rw [← List.cons_append, hs]
        simp [ih, Statement.shaderViewAll]
      · rintro cs' ⟨⟩
        revert hc
        decide

theorem readStatement_cons {c : Char} (hc : c ≠ '\x7b') (cs : List Char) :
    readStatement k (n + 1) (c :: cs) =
      (readAssignment k n (c :: cs)).or
        (readConditional k n (readStatement k n) (c :: cs)) := by
  rw [readStatement]
  rintro cs' ⟨⟩
  exact hc rfl

theorem readStatement_if (cs : List Char) :
    readStatement k (n + 1) ("if (".toList ++ cs) =
      readConditional k n (readStatement k n) ("if (".toList ++ cs) := by
  have hassignment := readAssignment_if (k := k) (n := n) cs
  change readStatement k (n + 1) ('i' :: ("f (".toList ++ cs)) = _
  rw [readStatement_cons (by decide)]
  change (readAssignment k n ("if (".toList ++ cs)).or _ = _
  rw [hassignment, Option.none_or]
  rfl

theorem statementReadsBack_block {body : List Statement} (hlength : body.length < n)
    (hbody : ∀ s ∈ body, StatementReadsBack (readStatement k n) stage.outputName s)
    (h : k.Legible stage (Statement.visitsAll body)) :
    StatementReadsBack (readStatement k (n + 1)) stage.outputName (.block body) := by
  intro rest _
  have htext : ((Statement.block body).text stage.outputName).toList ++ rest =
      '\x7b' :: ((Statement.textAll stage.outputName body).toList ++ '\x7d' :: rest) := by
    simp [Statement.text]
  rw [htext, readStatement, readBody_text hlength hbody h]
  rfl

theorem statementReadsBack_assign {target source : Operand}
    (htarget : ReadsBack (readOperand k n) stage.outputName target)
    (hsource : ReadsBack (readOperand k n) stage.outputName source)
    (h : k.Legible stage target.visits) :
    StatementReadsBack (readStatement k (n + 1)) stage.outputName (.assign target source) := by
  intro rest _
  have hread := readAssignment_text htarget hsource rest
  obtain ⟨c, cs, htext, hc⟩ : ∃ c cs, ((Statement.assign target source).text
      stage.outputName).toList ++ rest = c :: cs ∧ (isWordChar c ∨ c = '(') := by
    obtain ⟨c, cs, htext, hc⟩ := Operand.exists_cons_text h
    exact ⟨c, _, by simp [Statement.text, htext]; rfl, hc⟩
  have hbrace : c ≠ '\x7b' := by
    rintro rfl
    revert hc
    decide
  rw [htext] at hread ⊢
  rw [readStatement_cons hbrace, hread, Option.some_or]

theorem statementReadsBack_ifThen {condition : Operand} {body : Statement}
    (hcondition : ReadsBack (readOperand k n) output condition)
    (hbody : StatementReadsBack (readStatement k n) output body) :
    StatementReadsBack (readStatement k (n + 1)) output (.ifThen condition body) := by
  intro rest hrest
  have hread := readConditional_ifThen hcondition hbody (hrest rfl)
  simp only [Statement.text, String.toList_append, List.append_assoc] at hread ⊢
  rw [readStatement_if, hread]

theorem statementReadsBack_ifThenElse {condition : Operand} {body otherwise : Statement}
    (hcondition : ReadsBack (readOperand k n) output condition)
    (hbody : StatementReadsBack (readStatement k n) output body) (hclosed : body.endsOpen = false)
    (hotherwise : StatementReadsBack (readStatement k n) output otherwise) :
    StatementReadsBack (readStatement k (n + 1)) output
      (.ifThenElse condition body otherwise) := by
  intro rest hrest
  have hread := readConditional_ifThenElse hcondition hbody hclosed hotherwise hrest
  simp only [Statement.text, String.toList_append, List.append_assoc] at hread ⊢
  rw [readStatement_if, hread]

end Statements

/-- The text of a well-nested statement is read back to its view. -/
theorem readStatement_text {k : Vocabulary} {stage : Stage} {s : Statement}
    (hnested : s.WellNested) {n : Nat} (hn : sizeOf s ≤ n) (h : k.Legible stage s.visits) :
    StatementReadsBack (readStatement k n) stage.outputName s := by
  induction hnested generalizing n with
  | @block body hbody ih =>
      obtain _ | n := n
      · simp at hn
      simp only [Statement.block.sizeOf_spec] at hn
      rw [Statement.visits] at h
      have hlength := length_lt_sizeOf body
      refine statementReadsBack_block (by omega) (fun s hs => ?_) h.tail.tail
      have hsize := List.sizeOf_lt_of_mem hs
      exact ih s hs (by omega) (h.tail.tail.statement hs)
  | assign target source =>
      obtain _ | n := n
      · simp at hn
      simp only [Statement.assign.sizeOf_spec] at hn
      rw [Statement.visits] at h
      have htarget := readOperand_text (o := target) (n := n) (by omega) h.tail.tail.left
      have hsource := readOperand_text (o := source) (n := n) (by omega) h.tail.tail.right
      exact statementReadsBack_assign htarget hsource h.tail.tail.left
  | @ifThen condition body hbody ih =>
      obtain _ | n := n
      · simp at hn
      simp only [Statement.ifThen.sizeOf_spec] at hn
      rw [Statement.visits] at h
      have hcondition := readOperand_text (o := condition) (n := n) (by omega) h.tail.tail.left
      exact statementReadsBack_ifThen hcondition (ih (by omega) h.tail.tail.right)
  | @ifThenElse condition body otherwise hbody hclosed hotherwise ihbody ihotherwise =>
      obtain _ | n := n
      · simp at hn
      simp only [Statement.ifThenElse.sizeOf_spec] at hn
      rw [Statement.visits] at h
      have hcondition := readOperand_text (o := condition) (n := n) (by omega)
        h.tail.tail.left.left
      exact statementReadsBack_ifThenElse hcondition (ihbody (by omega) h.tail.tail.left.right)
        hclosed (ihotherwise (by omega) h.tail.tail.right)

end ShaderTree
