import ShaderTree.Proofs.Construction
import ShaderTree.Proofs.DeclarationReader

/-!
# A source determines its tree

`readSource` reads a whole source: the declarations give the vocabulary with which
the text of the tree is read.  No statement begins like a declaration, so the
reader finds where the tree begins.  A well-nested tree with a source, in which
every name is an identifier, is read back to its view.  Trees that are built step
by step are well nested, so two of them with the same source agree in everything
that a shader sees.
-/

namespace ShaderTree

open Glsl

open Text (isWordChar)

/-- The word of a type is a word. -/
theorem Ty.isWord_of_ofWord? {word : String} {ty : Ty} (h : Ty.ofWord? word = some ty) :
    isWord word := by
  have hname := List.find?_some h
  exact Ty.isWord_of_glslName? (by simpa using hname)

section Locals

variable {k : Vocabulary} {stage : Stage} {rest : List Char}

/-- No declaration begins with a digit or with punctuation. -/
theorem readLocal_cons {c : Char} (hc : (c.isAlpha || c == '_') = false) (cs : List Char) :
    readLocal (c :: cs) = none := by
  have hword : Ty.ofWord? (String.ofList ((c :: cs).takeWhile isWordChar)) = none := by
    refine Option.eq_none_iff_forall_ne_some.mpr fun ty hty => ?_
    have hword := Ty.isWord_of_ofWord? hty
    rw [List.takeWhile_cons] at hword
    split at hword <;> simp [isWord, hc] at hword
  rw [readLocal, readDeclared, hword]
  rfl

theorem readLocal_literalText {text : String} {sign digits : List Char}
    (hnumeral : IsNumeral text sign digits) (rest : List Char) :
    readLocal ((literalText text).toList ++ rest) = none := by
  obtain ⟨c, cs, htext, hc⟩ := exists_cons_literalText hnumeral
  rw [htext, List.cons_append]
  refine readLocal_cons ?_ _
  rcases hc with hc | rfl
  · cases halpha : c.isAlpha with
    | true =>
        rw [isDigit_eq_false_of_isAlpha halpha] at hc
        cases hc
    | false =>
        simp only [Bool.false_or, beq_eq_false_iff_ne]
        rintro rfl
        cases hc
  · decide

/-- What may follow the first word of an assignment. -/
def continuesAssignment (rest : List Char) : Prop :=
  rest.head? = some '.' ∨ rest.head? = some '(' ∨ ∃ cs, rest = " = ".toList ++ cs

theorem readLocal_word {word : String} (hword : isWord word) (hrest : continuesAssignment rest) :
    readLocal (word.toList ++ rest) = none := by
  have hall := isWordChar_of_isWord hword
  have hend : ∀ c ∈ rest.head?, isWordChar c = false := by
    rcases hrest with h | h | ⟨cs, rfl⟩
    · rw [h]
      rintro c ⟨⟩
      decide
    · rw [h]
      rintro c ⟨⟩
      decide
    · rintro c ⟨⟩
      decide
  rw [readLocal, readDeclared, takeWhile_run hall hend, dropWhile_run hall hend]
  cases Ty.ofWord? (String.ofList word.toList) with
  | none => rfl
  | some ty =>
      rcases hrest with h | h | ⟨cs, rfl⟩
      · obtain ⟨cs, rfl⟩ := List.head?_eq_some_iff.mp h
        rfl
      · obtain ⟨cs, rfl⟩ := List.head?_eq_some_iff.mp h
        rfl
      · rfl

/-- An assignment does not look like a declaration, whatever its target. -/
theorem Operand.readLocal_text : ∀ {o : Operand} {rest : List Char}, k.Legible stage o.visits →
    continuesAssignment rest → readLocal ((o.text stage.outputName).toList ++ rest) = none
  | .var v, _, h, hrest => readLocal_word h.knows.isWord hrest
  | .int m, _, _, _ => by
      obtain ⟨sign, digits, hnumeral, -⟩ := exists_isNumeral_toString m.toInt
      exact readLocal_literalText hnumeral _
  | .float x, _, h, _ => by
      obtain ⟨text, hx⟩ := exists_literal?_of_offence? (h.sound (.float x) (by simp [visits]))
      rw [Operand.text, hx, Option.getD_some]
      exact readLocal_literalText (isNumeral_of_literal? hx) _
  | .bool b, _, _, hrest => readLocal_word (isWord_toString_bool b) hrest
  | .binop op left right, rest, _, _ => by
      simp only [text, String.toList_append, List.append_assoc]
      exact readLocal_cons (c := '(') (by decide) _
  | .vector ty parts, rest, h, _ => by
      obtain ⟨word, hword⟩ :=
        exists_glslName?_of_offence? (h.sound (.vector ty parts) (by simp [visits]))
      simp only [text, hword, Option.getD_some, String.toList_append, List.append_assoc]
      exact readLocal_word (Ty.isWord_of_glslName? hword) (.inr (.inl rfl))
  | .swizzle source mask, rest, h, _ => by
      rw [visits] at h
      simp only [text, String.toList_append, List.append_assoc]
      exact readLocal_text h.tail.tail (.inl rfl)
  | .call f args, rest, _, _ => by
      simp only [text, String.toList_append, List.append_assoc]
      exact readLocal_word f.isWord_name (.inr (.inl rfl))

/-- The text of a tree does not begin like a declaration. -/
theorem Statement.readLocal_text {s : Statement} (h : k.Legible stage s.visits)
    (rest : List Char) : readLocal ((s.text stage.outputName).toList ++ rest) = none := by
  cases s with
  | block body =>
      simp only [text, String.toList_append, List.append_assoc]
      exact readLocal_cons (c := '\x7b') (by decide) _
  | assign target source =>
      rw [visits] at h
      simp only [text, String.toList_append, List.append_assoc]
      exact Operand.readLocal_text h.tail.tail.left (.inr (.inr ⟨_, rfl⟩))
  | ifThen condition body =>
      simp only [text, String.toList_append, List.append_assoc]
      rfl
  | ifThenElse condition body otherwise =>
      simp only [text, String.toList_append, List.append_assoc]
      rfl

end Locals

/-- The tree of a source, in the shader's view. -/
noncomputable def readSource (stage : Stage) (options : Options) (n : Nat) (source : String) :
    Option Statement := do
  let (declared, rest) ← readHeader options n source.toList
  let (root, _) ← readStatement (.ofDeclared stage.outputName declared) n rest
  return root

/-- The source of a well-nested tree is read back to the view of the tree. -/
theorem readSource_of_wellNested {stage : Stage} (options : Options) {root : Statement} {n : Nat}
    (hnested : root.WellNested) (hname : ∀ v ∈ root.mentions, isIdentifier v.name)
    (haccepted : root.IsAccepted stage) (hsize : sizeOf root ≤ n)
    (hlength : root.declared.length ≤ n) :
    readSource stage options n
      (sourceText options root.attributes root.uniforms root.varyings root.temps
        (root.text stage.outputName)) = some root.shaderView := by
  have hword : ∀ v ∈ root.declared, isWord v.name := fun v hv =>
    (isIdentifier_iff.mp (hname v (Statement.mem_declared.mp hv).1)).1
  have hlegible : Vocabulary.Legible
      (.ofDeclared stage.outputName (root.declared.map Variable.shaderView)) stage root.visits :=
    ⟨haccepted.unbroken, fun v hv => knows_of_mem_mentions stage hname haccepted.distinct hv⟩
  have hheader := readHeader_sourceText options haccepted.declarable hword
    (Statement.readLocal_text hlegible "\x7d\n".toList) hlength
  have hread := readStatement_text hnested hsize hlegible "\x7d\n".toList fun _ => rfl
  rw [readSource, hheader]
  simp only [Option.bind_eq_bind, Option.bind_some, hread]
  rfl

/-- The source of a built tree is read back to the view of the tree. -/
theorem readSource_sourceText {stage : Stage} (options : Options) {root : Statement} {n : Nat}
    (hbuilt : root.IsBuilt) (hname : ∀ v ∈ root.mentions, isIdentifier v.name)
    (haccepted : root.IsAccepted stage) (hsize : sizeOf root ≤ n)
    (hlength : root.declared.length ≤ n) :
    readSource stage options n
      (sourceText options root.attributes root.uniforms root.varyings root.temps
        (root.text stage.outputName)) = some root.shaderView := by
  obtain ⟨steps, hroot⟩ := hbuilt.exists_statements
  have hnested : root.WellNested := hroot ▸ .block (Step.wellNested_statements steps)
  exact readSource_of_wellNested options hnested hname haccepted hsize hlength

namespace Glsl.Generator

/-- Two built trees with the same source have the same view. -/
theorem shaderView_eq_of_generate (g : Generator) (history history' : List Call)
    (root root' : Statement) (hbuilt : root.IsBuilt) (hbuilt' : root'.IsBuilt)
    (hname : ∀ v ∈ root.mentions, isIdentifier v.name)
    (hname' : ∀ v ∈ root'.mentions, isIdentifier v.name) (source : String)
    (h : ((g.serve history).generate root).value.1 = .ok source)
    (h' : ((g.serve history').generate root').value.1 = .ok source) :
    root.shaderView = root'.shaderView := by
  obtain ⟨haccepted, hsource⟩ := generate_eq_ok_iff.mp h
  obtain ⟨haccepted', hsource'⟩ := generate_eq_ok_iff.mp h'
  -- one reader with fuel enough for both
  obtain ⟨n, hn⟩ : ∃ n, n = sizeOf root + root.declared.length + sizeOf root' +
      root'.declared.length := ⟨_, rfl⟩
  have hread := readSource_sourceText g.options hbuilt hname haccepted (n := n)
    (by omega) (by omega)
  have hread' := readSource_sourceText g.options hbuilt' hname' haccepted' (n := n)
    (by omega) (by omega)
  rw [hsource] at hread
  rw [hsource'] at hread'
  exact Option.some.inj (hread.symm.trans hread')

/-- Two trees that differ in a type and a normalization, with a conditional inside
the other side of another, numbers below zero and with a power of ten, a
constructor, a selection, a call, and a uniform called `if`. -/
theorem shaderView_eq_of_generate_color :
    let steps (ty : Ty) (normalized : Bool) : List Step :=
      let color : Operand := .var (.attribute ⟨"a_Color", ty, normalized⟩)
      [.branch (.bool true)
          [.set (.var (.temp ⟨7, ty⟩)) (.binop .sub color (.float ⟨0xBF000000⟩))]
          [[.set .out color],
            [.branch (.bool false) [.set .out (.swizzle color "xyzw")] [],
              .set .out (.vector ty [.call .max [.int (-3), .var (.uniform ⟨"if", .float⟩)]])]],
        .set .out (.binop .mul (.float ⟨0x322BCC77⟩) (.var (.varying ⟨"v_Fog", .vec4⟩)))]
    let root (ty : Ty) (normalized : Bool) : Statement :=
      (Shader.build (Step.performAll (steps ty normalized)) : Logged (Shader .vertex)).value.body
    let g : Generator := { stage := .vertex, options := { dialect := .es } }
    let history : List Call := [.generate (.assign .out (.vector .bool [])), .reset]
    let source :=
      "precision mediump float;\nprecision mediump int;\nprecision lowp sampler2D;\n" ++
        "precision lowp samplerCube;\nattribute vec4 a_Color;\nuniform float if;\n" ++
        "varying vec4 v_Fog;\nvoid main() \x7bvec4 temp7;\x7bif (true) " ++
        "\x7btemp7 = (a_Color-(-0.5));\x7d else \x7bif (false) " ++
        "\x7bgl_Position = a_Color.xyzw;\x7dgl_Position = vec4(max((-3), if));\x7d" ++
        "gl_Position = (1e-8*v_Fog);\x7d\x7d\n"
    (root .byte4 true).IsBuilt ∧ (root .vec4 false).IsBuilt ∧
      (∀ v ∈ (root .byte4 true).mentions, isIdentifier v.name) ∧
      (∀ v ∈ (root .vec4 false).mentions, isIdentifier v.name) ∧
      ((g.serve history).generate (root .byte4 true)).value.1 = .ok source ∧
      ((g.serve []).generate (root .vec4 false)).value.1 = .ok source ∧
      (root .byte4 true).shaderView = (root .vec4 false).shaderView := by
  intro steps root g history source
  have hbuilt : ∀ ty normalized, (root ty normalized).IsBuilt := fun ty normalized =>
    ⟨.vertex, steps ty normalized, rfl⟩
  have hname : ∀ v ∈ (root .byte4 true).mentions, isIdentifier v.name := by decide +kernel
  have hname' : ∀ v ∈ (root .vec4 false).mentions, isIdentifier v.name := by decide +kernel
  have hsource : ((g.serve history).generate (root .byte4 true)).value.1 = .ok source := by
    decide +kernel
  have hsource' : ((g.serve []).generate (root .vec4 false)).value.1 = .ok source := by
    decide +kernel
  exact ⟨hbuilt _ _, hbuilt _ _, hname, hname', hsource, hsource',
    shaderView_eq_of_generate g history [] (root .byte4 true) (root .vec4 false) (hbuilt _ _)
      (hbuilt _ _) hname hname' source hsource hsource'⟩

end Glsl.Generator

end ShaderTree
