import ShaderTree.Proofs.StageIndependence
import ShaderTree.Proofs.ValueEquality

/-!
# Sources of equal trees

Trees that are equal by value differ in the signs of zeros only.  A sign of a zero changes
no type, mentions no variable and offends against nothing, so equal trees have the same
coarse types, the same references and the same verdict.

Their texts differ where the signs do.  `DifferAtZeros` says that two texts are the same
but for places at which each of them writes a zero of its own, one place for each zero
literal; it is kept by putting texts one after another.
-/

namespace ShaderTree

open Glsl

namespace Operand

mutual

@[simp] theorem ty_unsignZeros : ∀ o : Operand, o.unsignZeros.ty = o.ty
  | .var _ | .int _ | .float _ | .bool _ | .vector _ _ => rfl
  | .binop _ left _ => ty_unsignZeros left
  | .swizzle source _ => ty_unsignZeros source
  | .call f args => congrArg f.resultTy (tys_unsignZerosAll args)

theorem tys_unsignZerosAll : ∀ os : List Operand, tys (unsignZerosAll os) = tys os
  | [] => rfl
  | o :: rest => by
      rw [unsignZerosAll, tys, tys, ty_unsignZeros o, tys_unsignZerosAll rest]

end

mutual

@[simp] theorem valueTy_unsignZeros : ∀ o : Operand, o.unsignZeros.valueTy = o.valueTy
  | .var _ | .int _ | .float _ | .bool _ | .vector _ _ => rfl
  | .binop op left right => by
      rw [unsignZeros, valueTy, valueTy, valueTy_unsignZeros left, valueTy_unsignZeros right]
  | .swizzle source mask => by
      rw [unsignZeros, valueTy, valueTy, valueTy_unsignZeros source]
  | .call f args => congrArg f.resultTy (valueTys_unsignZerosAll args)

theorem valueTys_unsignZerosAll : ∀ os : List Operand,
    valueTys (unsignZerosAll os) = valueTys os
  | [] => rfl
  | o :: rest => by
      rw [unsignZerosAll, valueTys, valueTys, valueTy_unsignZeros o, valueTys_unsignZerosAll rest]

end

end Operand

/-- What a visit adds to a run: the variable that is met and what is wrong with the node. -/
def Visit.remark (stage : Stage) (v : Visit) : Option Variable × Option Fault :=
  (v.mention?, v.offence? stage)

theorem Visit.filterMap_mention?_eq (stage : Stage) (vs : List Visit) :
    vs.filterMap mention? = (vs.map (remark stage)).filterMap Prod.fst := by
  rw [List.filterMap_map]
  rfl

theorem Visit.remark_float_unsignZero (stage : Stage) (x : Binary32) :
    remark stage (.float x.unsignZero) = remark stage (.float x) := by
  by_cases hx : x.isZero
  · rcases Binary32.isZero_iff.mp hx with rfl | rfl <;> rfl
  · rw [Binary32.unsignZero_of_not_isZero hx]

namespace Operand

mutual

theorem remarks_unsignZeros (stage : Stage) : ∀ o : Operand,
    o.unsignZeros.visits.map (Visit.remark stage) = o.visits.map (Visit.remark stage)
  | .var v => rfl
  | .int n => rfl
  | .float x => congrArg (_ :: [·]) (Visit.remark_float_unsignZero stage x)
  | .bool b => rfl
  | .binop op left right => by
      simp only [unsignZeros, visits, List.map_cons, List.map_append,
        remarks_unsignZeros stage left, remarks_unsignZeros stage right]
      rfl
  | .vector ty parts => by
      have hnode : Visit.remark stage (.vector ty (unsignZerosAll parts)) =
          Visit.remark stage (.vector ty parts) := by
        simp only [Visit.remark, Visit.offence?, ← valueTys_eq_map, valueTys_unsignZerosAll]
        rfl
      simp only [unsignZeros, visits, List.map_cons, remarksAll_unsignZeros stage parts, hnode]
      rfl
  | .swizzle source mask => by
      have hnode : Visit.remark stage (.swizzle source.unsignZeros mask) =
          Visit.remark stage (.swizzle source mask) := by
        simp only [Visit.remark, Visit.offence?, valueTy_unsignZeros]
        rfl
      simp only [unsignZeros, visits, List.map_cons, remarks_unsignZeros stage source, hnode]
      rfl
  | .call f args => by
      simp only [unsignZeros, visits, List.map_cons, remarksAll_unsignZeros stage args]
      rfl

theorem remarksAll_unsignZeros (stage : Stage) : ∀ os : List Operand,
    (visitsAll (unsignZerosAll os)).map (Visit.remark stage) =
      (visitsAll os).map (Visit.remark stage)
  | [] => rfl
  | o :: rest => by
      simp only [unsignZerosAll, visitsAll, List.map_append, remarks_unsignZeros stage o,
        remarksAll_unsignZeros stage rest]

end

end Operand

namespace Statement

mutual

/-- A walk over a tree meets the same variables and the same offences as one over the tree
with positive zeros. -/
theorem remarks_unsignZeros (stage : Stage) : ∀ s : Statement,
    s.unsignZeros.visits.map (Visit.remark stage) = s.visits.map (Visit.remark stage)
  | .block body => by
      simp only [unsignZeros, visits, List.map_cons, remarksAll_unsignZeros stage body]
      rfl
  | .assign target source => by
      simp only [unsignZeros, visits, List.map_cons, List.map_append,
        Operand.remarks_unsignZeros stage]
      rfl
  | .ifThen condition body => by
      simp only [unsignZeros, visits, List.map_cons, List.map_append,
        Operand.remarks_unsignZeros stage, remarks_unsignZeros stage body]
      rfl
  | .ifThenElse condition body otherwise => by
      simp only [unsignZeros, visits, List.map_cons, List.map_append,
        Operand.remarks_unsignZeros stage, remarks_unsignZeros stage body,
        remarks_unsignZeros stage otherwise]
      rfl

theorem remarksAll_unsignZeros (stage : Stage) : ∀ body : List Statement,
    (visitsAll (unsignZerosAll body)).map (Visit.remark stage) =
      (visitsAll body).map (Visit.remark stage)
  | [] => rfl
  | s :: rest => by
      simp only [unsignZerosAll, visitsAll, List.map_append, remarks_unsignZeros stage s,
        remarksAll_unsignZeros stage rest]

end

end Statement

/-- The texts of the two zeros. -/
def Binary32.zeroText (x : Binary32) : String := if x = negativeZero then "(-0.0)" else "0.0"

/-- Texts that are the same but for places at which one writes the zeros `xs` and the
other the zeros `ys`, in this order. -/
inductive DifferAtZeros : List Binary32 → List Binary32 → String → String → Prop
  | nil : DifferAtZeros [] [] "" ""
  | write {xs ys : List Binary32} {t u : String} (text : String) (h : DifferAtZeros xs ys t u) :
    DifferAtZeros xs ys (text ++ t) (text ++ u)
  | zero {xs ys : List Binary32} {t u : String} {x y : Binary32} (hx : x.isZero) (hy : y.isZero)
    (h : DifferAtZeros xs ys t u) :
    DifferAtZeros (x :: xs) (y :: ys) (x.zeroText ++ t) (y.zeroText ++ u)

namespace DifferAtZeros

variable {xs ys xs' ys' : List Binary32} {t u t' u' : String}

theorem append (h : DifferAtZeros xs ys t u) (h' : DifferAtZeros xs' ys' t' u') :
    DifferAtZeros (xs ++ xs') (ys ++ ys') (t ++ t') (u ++ u') := by
  induction h with
  | nil => simpa using h'
  | write text _ ih =>
      rw [String.append_assoc, String.append_assoc]
      exact .write text ih
  | zero hx hy _ ih =>
      rw [String.append_assoc, String.append_assoc]
      exact .zero hx hy ih

theorem refl (text : String) : DifferAtZeros [] [] text text := by
  simpa using write text nil

theorem append_write (h : DifferAtZeros xs ys t u) (text : String) :
    DifferAtZeros xs ys (t ++ text) (u ++ text) := by
  simpa using h.append (refl text)

/-- Floats that are the same but for the sign of a zero have one text, or are two zeros. -/
theorem literal {x y : Binary32} (h : x.unsignZero = y.unsignZero) :
    DifferAtZeros ([x].filter Binary32.isZero) ([y].filter Binary32.isZero)
      (literalText (x.literal?.getD "")) (literalText (y.literal?.getD "")) := by
  have htext : ∀ z : Binary32, z.isZero → literalText (z.literal?.getD "") = z.zeroText := by
    intro z hz
    rcases Binary32.isZero_iff.mp hz with rfl | rfl <;> decide +kernel
  have hzeros : x.isZero → y.isZero → DifferAtZeros ([x].filter Binary32.isZero)
      ([y].filter Binary32.isZero) (literalText (x.literal?.getD ""))
      (literalText (y.literal?.getD "")) := by
    intro hx hy
    rw [List.filter_cons_of_pos hx, List.filter_cons_of_pos hy, htext x hx, htext y hy]
    simpa using zero hx hy nil
  rcases Binary32.unsignZero_eq_iff.mp h with rfl | ⟨hx, hy⟩
  · by_cases hx : x.isZero
    · exact hzeros hx hx
    · rw [List.filter_cons_of_neg hx]
      exact refl _
  · exact hzeros hx hy

end DifferAtZeros

namespace Operand

mutual

/-- The recursion is on the first operand; the second has the same shape. -/
theorem differAtZeros_text (output : String) : ∀ {a b : Operand},
    a.unsignZeros = b.unsignZeros →
      DifferAtZeros (a.floats.filter Binary32.isZero) (b.floats.filter Binary32.isZero)
        (a.text output) (b.text output)
  | .var v, b, h => by
      cases b with
      | var w =>
          cases h
          rw [floats_var]
          exact .refl _
      | _ => cases h
  | .int n, b, h => by
      cases b with
      | int m =>
          cases h
          exact .refl _
      | _ => cases h
  | .float x, b, h => by
      cases b with
      | float y =>
          rw [unsignZeros, unsignZeros, float.injEq] at h
          exact .literal h
      | _ => cases h
  | .bool n, b, h => by
      cases b with
      | bool m =>
          cases h
          exact .refl _
      | _ => cases h
  | .binop op left right, b, h => by
      cases b with
      | binop op' left' right' =>
          rw [unsignZeros, unsignZeros, binop.injEq] at h
          obtain ⟨rfl, hleft, hright⟩ := h
          have hleft := differAtZeros_text output hleft
          have hright := differAtZeros_text output hright
          rw [floats_binop, floats_binop, List.filter_append, List.filter_append, text, text]
          exact (((hleft.write "(").append_write op.symbol).append hright).append_write ")"
      | _ => cases h
  | .vector ty parts, b, h => by
      cases b with
      | vector ty' parts' =>
          rw [unsignZeros, unsignZeros, vector.injEq] at h
          obtain ⟨rfl, hparts⟩ := h
          have hparts := differAtZeros_textAll output "," hparts
          rw [floats_vector, floats_vector, text, text]
          exact (hparts.write (ty.glslName?.getD "" ++ "(")).append_write ")"
      | _ => cases h
  | .swizzle source mask, b, h => by
      cases b with
      | swizzle source' mask' =>
          rw [unsignZeros, unsignZeros, swizzle.injEq] at h
          obtain ⟨hsource, rfl⟩ := h
          have hsource := differAtZeros_text output hsource
          rw [floats_swizzle, floats_swizzle, text, text]
          exact hsource.append_write ("." ++ mask)
      | _ => cases h
  | .call f args, b, h => by
      cases b with
      | call f' args' =>
          rw [unsignZeros, unsignZeros, call.injEq] at h
          obtain ⟨rfl, hargs⟩ := h
          have hargs := differAtZeros_textAll output ", " hargs
          rw [floats_call, floats_call, text, text]
          exact (hargs.write (f.name ++ "(")).append_write ")"
      | _ => cases h

theorem differAtZeros_textAll (output separator : String) : ∀ {as bs : List Operand},
    unsignZerosAll as = unsignZerosAll bs →
      DifferAtZeros ((floatsAll as).filter Binary32.isZero) ((floatsAll bs).filter Binary32.isZero)
        (textAll output separator as) (textAll output separator bs)
  | [], [], _ => .nil
  | [], _ :: _, h => by cases h
  | _ :: _, [], h => by cases h
  | a :: as, b :: bs, h => by
      rw [unsignZerosAll, unsignZerosAll, List.cons.injEq] at h
      obtain ⟨hfirst, hrest⟩ := h
      have ha := differAtZeros_text output hfirst
      have has := differAtZeros_textAll output separator hrest
      rw [floatsAll_cons, floatsAll_cons, List.filter_append, List.filter_append]
      -- Only a list that goes on has a separator.
      match as, bs, hrest, has with
      | [], [], _, _ =>
          rw [textAll, textAll]
          simpa [floatsAll, visitsAll] using ha
      | [], _ :: _, hrest, _ => cases hrest
      | _ :: _, [], hrest, _ => cases hrest
      | _ :: _, _ :: _, _, has =>
          rw [textAll, textAll]
          exact (ha.append_write separator).append has

end

/-- Operands that are equal by value have the same coarse type. -/
theorem ty_eq {a b : Operand} (h : a.unsignZeros = b.unsignZeros) : a.ty = b.ty := by
  rw [← ty_unsignZeros a, h, ty_unsignZeros]

end Operand

namespace Statement

mutual

theorem differAtZeros_text (output : String) : ∀ {a b : Statement},
    a.unsignZeros = b.unsignZeros →
      DifferAtZeros (a.floats.filter Binary32.isZero) (b.floats.filter Binary32.isZero)
        (a.text output) (b.text output)
  | .block body, b, h => by
      cases b with
      | block body' =>
          rw [unsignZeros, unsignZeros, block.injEq] at h
          have hbody := differAtZeros_textAll output h
          rw [floats_block, floats_block, text, text]
          exact (hbody.write "\x7b").append_write "\x7d"
      | _ => cases h
  | .assign target source, b, h => by
      cases b with
      | assign target' source' =>
          rw [unsignZeros, unsignZeros, assign.injEq] at h
          have htarget := Operand.differAtZeros_text output h.1
          have hsource := Operand.differAtZeros_text output h.2
          rw [floats_assign, floats_assign, List.filter_append, List.filter_append, text, text]
          exact ((htarget.append_write " = ").append hsource).append_write ";"
      | _ => cases h
  | .ifThen condition body, b, h => by
      cases b with
      | ifThen condition' body' =>
          rw [unsignZeros, unsignZeros, ifThen.injEq] at h
          have hcondition := Operand.differAtZeros_text output h.1
          have hbody := differAtZeros_text output h.2
          rw [floats_ifThen, floats_ifThen, List.filter_append, List.filter_append, text, text]
          exact ((hcondition.write "if (").append_write ") ").append hbody
      | _ => cases h
  | .ifThenElse condition body otherwise, b, h => by
      cases b with
      | ifThenElse condition' body' otherwise' =>
          rw [unsignZeros, unsignZeros, ifThenElse.injEq] at h
          have hcondition := Operand.differAtZeros_text output h.1
          have hbody := differAtZeros_text output h.2.1
          have hotherwise := differAtZeros_text output h.2.2
          simp only [floats_ifThenElse, List.filter_append, text]
          exact ((((hcondition.write "if (").append_write ") ").append hbody).append_write
            " else ").append hotherwise
      | _ => cases h

theorem differAtZeros_textAll (output : String) : ∀ {as bs : List Statement},
    unsignZerosAll as = unsignZerosAll bs →
      DifferAtZeros ((floatsAll as).filter Binary32.isZero) ((floatsAll bs).filter Binary32.isZero)
        (textAll output as) (textAll output bs)
  | [], [], _ => .nil
  | [], _ :: _, h => by cases h
  | _ :: _, [], h => by cases h
  | a :: as, b :: bs, h => by
      rw [unsignZerosAll, unsignZerosAll, List.cons.injEq] at h
      have ha := differAtZeros_text output h.1
      have has := differAtZeros_textAll output h.2
      rw [floatsAll_cons, floatsAll_cons, List.filter_append, List.filter_append, textAll, textAll]
      exact ha.append has

end

section SameButZeros

variable {a b : Statement} (h : a.unsignZeros = b.unsignZeros)

include h

theorem remarks_eq (stage : Stage) :
    a.visits.map (Visit.remark stage) = b.visits.map (Visit.remark stage) := by
  rw [← remarks_unsignZeros stage a, h, remarks_unsignZeros]

theorem mentions_eq : a.mentions = b.mentions := by
  rw [mentions, mentions, Visit.filterMap_mention?_eq .vertex, remarks_eq h,
    ← Visit.filterMap_mention?_eq]

theorem verdict_eq_of_unsignZeros (stage : Stage) : a.verdict stage = b.verdict stage := by
  have hoffence : ∀ s : Statement, s.visits.findSome? (Visit.offence? stage) =
      (s.visits.map (Visit.remark stage)).findSome? Prod.snd := by
    intro s
    rw [List.findSome?_map]
    rfl
  simp only [verdict, hoffence, remarks_eq h, declared, attributes, uniforms, varyings, temps,
    mentions_eq h]

/-- A walk that stops at the first offence has met the same variables. -/
theorem mentions_takeWhile_eq (stage : Stage) :
    (a.visits.takeWhile fun v => (v.offence? stage).isNone).filterMap Visit.mention? =
      (b.visits.takeWhile fun v => (v.offence? stage).isNone).filterMap Visit.mention? := by
  have hmet : ∀ s : Statement,
      (s.visits.takeWhile fun v => (v.offence? stage).isNone).filterMap Visit.mention? =
        ((s.visits.map (Visit.remark stage)).takeWhile (·.2.isNone)).filterMap Prod.fst := by
    intro s
    rw [List.takeWhile_map, List.filterMap_map]
    rfl
  rw [hmet, hmet, remarks_eq h]

theorem openingText_eq : openingText a = openingText b := by
  simp only [openingText, attributes, uniforms, varyings, temps, mentions_eq h]

end SameButZeros

end Statement

namespace References

/-- The references with those of one operand. -/
def collectOperand (r : References) (o : Operand) : References :=
  (o.walk (m := StateM References) fun v => modify (·.note v)).run r |>.2

theorem collectOperand_eq_insertMany (r : References) (o : Operand) :
    r.collectOperand o = r.insertMany (o.visits.filterMap Visit.mention?) := by
  unfold collectOperand
  rw [Operand.walk_eq_forM, run_forM_note, foldl_note_operand]

theorem collectOperand_eq {a b : Operand} (h : a.unsignZeros = b.unsignZeros) (r : References) :
    r.collectOperand a = r.collectOperand b := by
  rw [collectOperand_eq_insertMany, collectOperand_eq_insertMany,
    Visit.filterMap_mention?_eq .vertex, ← Operand.remarks_unsignZeros, h,
    Operand.remarks_unsignZeros, ← Visit.filterMap_mention?_eq]

end References

namespace Glsl.Generator

variable {a b : Statement}

theorem resultsAgree_of_unsignZeros (h : a.unsignZeros = b.unsignZeros) (g : Generator)
    (history history' : List Call) :
    ResultsAgree
      (DifferAtZeros (a.floats.filter Binary32.isZero) (b.floats.filter Binary32.isZero))
      ((g.serve history).generate a).value.1 ((g.serve history').generate b).value.1 := by
  have htext := Statement.differAtZeros_text g.stage.outputName h
  rw [generate_result, generate_result, stage_serve, stage_serve, options_serve, options_serve,
    Statement.verdict_eq_of_unsignZeros h, sourceText_eq, sourceText_eq,
    Statement.openingText_eq h]
  exact .settle _ (.write _ ((htext.write _).append_write _))

theorem references_eq_of_unsignZeros (h : a.unsignZeros = b.unsignZeros) (g : Generator)
    (history history' : List Call) :
    ((g.serve history).generate a).value.2.references =
      ((g.serve history').generate b).value.2.references := by
  rw [generate_references, generate_references, stage_serve, stage_serve,
    Statement.mentions_takeWhile_eq h]

end Glsl.Generator

/-- Operands and statements are compared by value. Equal operands have the same coarse type
and the same variables; equal statements have the same variables and, in every stage and
under all options, the same fault or sources that differ in the signs of zeros only. -/
theorem equal_trees_agree :
    ComparesByValue Operand.equal Operand.floats Operand.unsignZeros ∧
      ComparesByValue Statement.equal Statement.floats Statement.unsignZeros ∧
      (∀ a b : Operand, a.equal b →
        a.ty = b.ty ∧ ∀ r : References, r.collectOperand a = r.collectOperand b) ∧
      ∀ a b : Statement, a.equal b →
        (∀ r : References, r.collect a = r.collect b) ∧
          ∀ (g : Generator) (history history' : List Generator.Call),
            let run := ((g.serve history).generate a).value
            let run' := ((g.serve history').generate b).value
            ResultsAgree
                (DifferAtZeros (a.floats.filter Binary32.isZero) (b.floats.filter Binary32.isZero))
                run.1 run'.1 ∧
              run.2.references = run'.2.references := by
  refine ⟨.of_iff Operand.equal_iff, .of_iff Statement.equal_iff, fun a b hab => ?_,
    fun a b hab => ?_⟩
  · obtain ⟨-, -, hsame⟩ := (Operand.equal_iff a b).mp hab
    exact ⟨Operand.ty_eq hsame, References.collectOperand_eq hsame⟩
  · obtain ⟨-, -, hsame⟩ := (Statement.equal_iff a b).mp hab
    refine ⟨fun r => ?_, fun g history history' => ⟨?_, ?_⟩⟩
    · rw [References.collect_eq_insertMany, References.collect_eq_insertMany,
        Statement.mentions_eq hsame]
    · exact Generator.resultsAgree_of_unsignZeros hsame g history history'
    · exact Generator.references_eq_of_unsignZeros hsame g history history'

/-- Two equal trees with three zeros, of which two differ in sign, beside a literal that is
no zero, and their sources; a tree that holds a NaN is not equal to itself. -/
theorem equal_trees_agree_signs :
    let color (x y z : Binary32) : Statement := .block
      [.assign .out (.vector .vec4 [.float x, .float y, .float z, .float ⟨0x3F800000⟩])]
    let a := color .zero .negativeZero .zero
    let b := color .negativeZero .zero .zero
    let nan := color .zero .zero ⟨0x7FC00000⟩
    let g : Generator := { stage := .fragment, options := { dialect := .es } }
    let opening := "precision mediump float;\nprecision mediump int;\n" ++
      "precision lowp sampler2D;\nprecision lowp samplerCube;\nvoid main() \x7b\x7b"
    a.equal b ∧ ¬ nan.equal nan ∧
      ((g.serve []).generate a).value.1 =
        .ok (opening ++ "gl_FragColor = vec4(0.0,(-0.0),0.0,1.0);\x7d\x7d\n") ∧
      ((g.serve []).generate b).value.1 =
        .ok (opening ++ "gl_FragColor = vec4((-0.0),0.0,0.0,1.0);\x7d\x7d\n") ∧
      ResultsAgree (DifferAtZeros [.zero, .negativeZero, .zero] [.negativeZero, .zero, .zero])
        ((g.serve []).generate a).value.1 ((g.serve []).generate b).value.1 := by
  intro color a b nan g opening
  obtain ⟨-, hstatements, -, hruns⟩ := equal_trees_agree
  have hequal : a.equal b := by decide +kernel
  have hnan : ¬ nan.equal nan := by
    rw [hstatements.self_iff]
    decide +kernel
  have hzeros : a.floats.filter Binary32.isZero = [.zero, .negativeZero, .zero] := by
    decide +kernel
  have hzeros' : b.floats.filter Binary32.isZero = [.negativeZero, .zero, .zero] := by
    decide +kernel
  obtain ⟨hagree, -⟩ := (hruns a b hequal).2 g [] []
  rw [hzeros, hzeros'] at hagree
  exact ⟨hequal, hnan, by decide +kernel, by decide +kernel, hagree⟩

end ShaderTree
