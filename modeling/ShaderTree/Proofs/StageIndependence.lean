import ShaderTree.Proofs.Generation

/-!
# What the stage and the options change

The options decide the preamble.  The stage decides the name of the output and
whether attributes are allowed, and nothing else: in a tree without attributes every
node offends in both stages or in none.

The text of a tree is a fixed text with gaps, one for each mention of the output, and
a stage fills them all with the same name.  `FillsGaps` says this of the visits of a
tree and the function that gives its text for a name; it is kept by putting texts one
after another.
-/

namespace ShaderTree

open Glsl

/-- `f` writes a name into a fixed text, at one gap for each time that the output is
met among the visits `vs`. -/
def FillsGaps (vs : List Visit) (f : String → String) : Prop :=
  ∃ pieces : List String, pieces.length = (vs.filterMap Visit.mention?).count .output + 1 ∧
    ∀ name, f name = name.intercalate pieces

/-- The last piece of one text and the first of the next become one piece. -/
theorem intercalate_append_intercalate (name : String) (before : List String) (a b : String)
    (after : List String) :
    name.intercalate (before ++ [a]) ++ name.intercalate (b :: after) =
      name.intercalate (before ++ (a ++ b) :: after) := by
  induction before with
  | nil =>
      rw [List.nil_append, List.nil_append, String.intercalate_singleton,
        String.intercalate_cons_append]
  | cons c before ih =>
      have hleft : before ++ [a] ≠ [] := by simp
      have hright : before ++ (a ++ b) :: after ≠ [] := by simp
      rw [List.cons_append, List.cons_append, String.intercalate_cons_of_ne_nil hleft,
        String.intercalate_cons_of_ne_nil hright, String.append_assoc, ih]

namespace FillsGaps

variable {v : Visit} {vs ws : List Visit} {f g : String → String}

theorem append (hf : FillsGaps vs f) (hg : FillsGaps ws g) :
    FillsGaps (vs ++ ws) fun name => f name ++ g name := by
  obtain ⟨ps, hps, hf⟩ := hf
  obtain ⟨qs, hqs, hg⟩ := hg
  obtain ⟨before, a, rfl⟩ : ∃ before a, ps = before ++ [a] :=
    ⟨_, _, (List.dropLast_append_getLast (List.ne_nil_of_length_eq_add_one hps)).symm⟩
  obtain ⟨b, after, rfl⟩ := List.exists_cons_of_ne_nil (List.ne_nil_of_length_eq_add_one hqs)
  refine ⟨before ++ (a ++ b) :: after, ?_, fun name => ?_⟩
  · rw [List.filterMap_append, List.count_append]
    simp only [List.length_append, List.length_cons, List.length_nil] at hps hqs ⊢
    omega
  · show f name ++ g name = _
    rw [hf, hg, intercalate_append_intercalate]

/-- A visit that does not meet a variable has no gap. -/
theorem silent (h : v.mention? = none) (hf : FillsGaps vs f) : FillsGaps (v :: vs) f := by
  obtain ⟨pieces, hpieces, hf⟩ := hf
  refine ⟨pieces, ?_, hf⟩
  rw [hpieces, List.filterMap_cons_none h]

theorem write (text : String) : FillsGaps [] fun _ => text :=
  ⟨[text], rfl, fun _ => String.intercalate_singleton.symm⟩

/-- Text in front belongs to no visit. -/
theorem write_append (text : String) (hf : FillsGaps vs f) :
    FillsGaps vs fun name => text ++ f name := (write text).append hf

/-- Text at the end belongs to no visit. -/
theorem append_write (hf : FillsGaps vs f) (text : String) :
    FillsGaps vs fun name => f name ++ text := by
  have happend := hf.append (write text)
  rwa [List.append_nil] at happend

theorem ofVariable : ∀ v : Variable, FillsGaps [.ofVariable v] fun output => v.spelling output
  | .attribute a => ⟨[a.name], rfl, fun _ => String.intercalate_singleton.symm⟩
  | .varying v => ⟨[v.name], rfl, fun _ => String.intercalate_singleton.symm⟩
  | .uniform u => ⟨[u.name], rfl, fun _ => String.intercalate_singleton.symm⟩
  | .temp t => ⟨[t.name], rfl, fun _ => String.intercalate_singleton.symm⟩
  | .output => ⟨["", ""], rfl, fun name => by simp [Variable.spelling]⟩

end FillsGaps

namespace Operand

mutual

theorem fillsGaps_text : ∀ o : Operand, FillsGaps o.visits fun output => o.text output
  | .var v => ((FillsGaps.ofVariable v).silent rfl).silent rfl
  | .int n => ((FillsGaps.write _).silent rfl).silent rfl
  | .float x => ((FillsGaps.write _).silent rfl).silent rfl
  | .bool b => ((FillsGaps.write _).silent rfl).silent rfl
  | .binop op left right => by
      have hleft := fillsGaps_text left
      have hright := fillsGaps_text right
      simp only [visits, text]
      exact (((((hleft.write_append "(").append_write op.symbol).append hright).append_write
        ")").silent rfl).silent rfl
  | .vector ty parts => by
      have hparts := fillsGaps_textAll "," parts
      simp only [visits, text]
      exact (((hparts.write_append (ty.glslName?.getD "" ++ "(")).append_write ")").silent
        rfl).silent rfl
  | .swizzle source mask => by
      have hsource := fillsGaps_text source
      simp only [visits, text]
      exact ((hsource.append_write ("." ++ mask)).silent rfl).silent rfl
  | .call f args => by
      have hargs := fillsGaps_textAll ", " args
      simp only [visits, text]
      exact (((hargs.write_append (f.name ++ "(")).append_write ")").silent rfl).silent rfl

theorem fillsGaps_textAll (separator : String) : ∀ os : List Operand,
    FillsGaps (visitsAll os) fun output => textAll output separator os
  | [] => .write ""
  | [o] => by
      have ho := fillsGaps_text o
      simpa [textAll, visitsAll] using ho
  | o :: p :: rest => by
      have ho := fillsGaps_text o
      have hrest := fillsGaps_textAll separator (p :: rest)
      simp only [visitsAll, textAll]
      exact (ho.append_write separator).append hrest

end

end Operand

namespace Statement

mutual

/-- The text of a tree has a gap for every mention of the output. -/
theorem fillsGaps_text : ∀ s : Statement, FillsGaps s.visits fun output => s.text output
  | .block body => by
      have hbody := fillsGaps_textAll body
      simp only [visits, text]
      exact (((hbody.write_append "\x7b").append_write "\x7d").silent rfl).silent rfl
  | .assign target source => by
      have htarget := target.fillsGaps_text
      have hsource := source.fillsGaps_text
      simp only [visits, text]
      exact ((((htarget.append_write " = ").append hsource).append_write ";").silent rfl).silent
        rfl
  | .ifThen condition body => by
      have hcondition := condition.fillsGaps_text
      have hbody := fillsGaps_text body
      simp only [visits, text]
      exact ((((hcondition.write_append "if (").append_write ") ").append hbody).silent
        rfl).silent rfl
  | .ifThenElse condition body otherwise => by
      have hcondition := condition.fillsGaps_text
      have hbody := fillsGaps_text body
      have hotherwise := fillsGaps_text otherwise
      simp only [visits, text]
      exact ((((((hcondition.write_append "if (").append_write ") ").append hbody).append_write
        " else ").append hotherwise).silent rfl).silent rfl

theorem fillsGaps_textAll : ∀ body : List Statement,
    FillsGaps (visitsAll body) fun output => textAll output body
  | [] => .write ""
  | s :: rest => by
      have hs := fillsGaps_text s
      have hrest := fillsGaps_textAll rest
      simp only [visitsAll, textAll]
      exact hs.append hrest

end

end Statement

section Offences

variable {s : Statement} {stage stage' : Stage}

theorem Visit.mention?_eq_attribute_iff {v : Visit} {a : Attribute} :
    v.mention? = some (.attribute a) ↔ v = .attribute a := by
  cases v <;> simp [mention?]

/-- Only an attribute is allowed in one stage and not in the other. -/
theorem Visit.offence?_eq (stage stage' : Stage) :
    ∀ {v : Visit}, (∀ a, v ≠ .attribute a) → v.offence? stage = v.offence? stage'
  | .attribute a, h => absurd rfl (h a)
  | .statement _, _ | .block _, _ | .assign _ _, _ | .conditional _ _, _ | .operand _, _
  | .variable _, _ | .varying _, _ | .uniform _, _ | .temp _, _ | .output, _ | .int _, _
  | .float _, _ | .bool _, _ | .binop _ _ _, _ | .vector _ _, _ | .swizzle _ _, _
  | .call _ _, _ => rfl

theorem Statement.offence?_eq_of_no_attribute (h : ∀ a, .attribute a ∉ s.mentions)
    (stage stage' : Stage) : ∀ v ∈ s.visits, v.offence? stage = v.offence? stage' := by
  intro v hv
  refine Visit.offence?_eq stage stage' fun a ha => h a ?_
  exact List.mem_filterMap.mpr ⟨v, hv, Visit.mention?_eq_attribute_iff.mpr ha⟩

theorem Statement.verdict_eq (hsame : ∀ v ∈ s.visits, v.offence? stage = v.offence? stage') :
    s.verdict stage = s.verdict stage' := by
  rw [verdict, verdict, ← List.head?_filterMap, ← List.head?_filterMap,
    List.filterMap_congr hsame]

/-- An attribute anywhere in a tree is an offence in the fragment stage. -/
theorem Statement.verdict_fragment_ne_none {a : Attribute} (ha : .attribute a ∈ s.mentions) :
    s.verdict .fragment ≠ none := by
  obtain ⟨v, hv, hmention⟩ := List.mem_filterMap.mp ha
  rw [Visit.mention?_eq_attribute_iff.mp hmention] at hv
  intro hnone
  have hoffence := (verdict_eq_none_iff.mp hnone).unbroken _ hv
  cases hoffence

theorem takeWhile_eq_of_forall {α : Type} {p q : α → Bool} {l : List α} (h : ∀ a ∈ l, p a = q a) :
    l.takeWhile p = l.takeWhile q := by
  induction l with
  | nil => rfl
  | cons a l ih =>
      rw [List.takeWhile_cons, List.takeWhile_cons, h a List.mem_cons_self,
        ih fun b hb => h b (List.mem_cons_of_mem _ hb)]

end Offences

namespace Glsl

/-- Two results that are the same fault, or sources of which `R` holds. -/
inductive ResultsAgree (R : String → String → Prop) :
    Except Fault String → Except Fault String → Prop
  | fault (fault : Fault) : ResultsAgree R (.error fault) (.error fault)
  | source {source source' : String} (h : R source source') :
    ResultsAgree R (.ok source) (.ok source')

/-- Sources that differ in their preambles only. -/
def SameBeyondPreamble (g g' : Generator) (source source' : String) : Prop :=
  ∃ rest, source = g.options.preamble ++ rest ∧ source' = g'.options.preamble ++ rest

/-- Sources that have the same text behind their preambles, but for `n` gaps in which each
of them writes the name that the output has in its stage. -/
def SameBeyondOutput (n : Nat) (g g' : Generator) (source source' : String) : Prop :=
  ∃ pieces : List String, pieces.length = n + 1 ∧
    source = g.options.preamble ++ g.stage.outputName.intercalate pieces ∧
    source' = g'.options.preamble ++ g'.stage.outputName.intercalate pieces

theorem ResultsAgree.settle {R : String → String → Prop} {source source' : String}
    (c : Option Fault) (h : R source source') :
    ResultsAgree R (Glsl.settle c source) (Glsl.settle c source') := by
  cases c with
  | none => exact .source h
  | some fault => exact .fault fault

/-- What stands between the preamble and the text of a tree. -/
def openingText (root : Statement) : String :=
  String.join (root.attributes.map fun a => declarationText "attribute " a.ty a.name ";\n") ++
    String.join (root.uniforms.map fun u => declarationText "uniform " u.ty u.name ";\n") ++
    String.join (root.varyings.map fun v => declarationText "varying " v.ty v.name ";\n") ++
    "void main() \x7b" ++ String.join (root.temps.map fun t => declarationText "" t.ty t.name ";")

theorem sourceText_eq (options : Options) (root : Statement) (body : String) :
    sourceText options root.attributes root.uniforms root.varyings root.temps body =
      options.preamble ++ (openingText root ++ body ++ "\x7d\n") := by
  simp only [sourceText, openingText, String.append_assoc]

theorem sameBeyondPreamble_sourceText {g g' : Generator} (hstage : g.stage = g'.stage)
    (root : Statement) :
    SameBeyondPreamble g g'
      (sourceText g.options root.attributes root.uniforms root.varyings root.temps
        (root.text g.stage.outputName))
      (sourceText g'.options root.attributes root.uniforms root.varyings root.temps
        (root.text g'.stage.outputName)) := by
  rw [sourceText_eq, sourceText_eq, hstage]
  exact ⟨_, rfl, rfl⟩

theorem sameBeyondOutput_sourceText (g g' : Generator) (root : Statement) :
    SameBeyondOutput (root.mentions.count .output) g g'
      (sourceText g.options root.attributes root.uniforms root.varyings root.temps
        (root.text g.stage.outputName))
      (sourceText g'.options root.attributes root.uniforms root.varyings root.temps
        (root.text g'.stage.outputName)) := by
  obtain ⟨pieces, hlength, hpieces⟩ :=
    (root.fillsGaps_text.write_append (openingText root)).append_write "\x7d\n"
  rw [sourceText_eq, sourceText_eq]
  exact ⟨pieces, hlength, congrArg _ (hpieces _), congrArg _ (hpieces _)⟩

namespace Generator

variable {g g' : Generator} {root : Statement}

theorem references_generate_eq
    (hsame : ∀ v ∈ root.visits, v.offence? g.stage = v.offence? g'.stage)
    (history history' : List Call) :
    ((g.serve history).generate root).value.2.references =
      ((g'.serve history').generate root).value.2.references := by
  rw [generate_references, generate_references, stage_serve, stage_serve]
  refine congrArg (fun vs => References.empty.insertMany (List.filterMap Visit.mention? vs)) ?_
  exact takeWhile_eq_of_forall fun v hv => by rw [hsame v hv]

theorem resultsAgree_generate {R : String → String → Prop}
    (hsame : ∀ v ∈ root.visits, v.offence? g.stage = v.offence? g'.stage)
    (history history' : List Call)
    (h : R
      (sourceText g.options root.attributes root.uniforms root.varyings root.temps
        (root.text g.stage.outputName))
      (sourceText g'.options root.attributes root.uniforms root.varyings root.temps
        (root.text g'.stage.outputName))) :
    ResultsAgree R ((g.serve history).generate root).value.1
      ((g'.serve history').generate root).value.1 := by
  rw [generate_result, generate_result, stage_serve, stage_serve, options_serve, options_serve,
    Statement.verdict_eq hsame]
  exact .settle _ h

/-- Trees without attributes have the same result in all stages and under all options, but
for the preamble and the name of the output. Trees with an attribute have none in the
fragment stage. The options change the preamble only. -/
theorem generate_agrees (root : Statement) (g g' : Generator) (history history' : List Call) :
    let run := ((g.serve history).generate root).value
    let run' := ((g'.serve history').generate root).value
    ((∀ a, .attribute a ∉ root.mentions) →
        ResultsAgree (SameBeyondOutput (root.mentions.count .output) g g') run.1 run'.1 ∧
          run.2.references = run'.2.references) ∧
      (∀ a, .attribute a ∈ root.mentions → g.stage = .fragment →
        ∃ fault, run.1 = .error fault) ∧
      (g.stage = g'.stage →
        ResultsAgree (SameBeyondPreamble g g') run.1 run'.1 ∧
          run.2.references = run'.2.references) := by
  intro run run'
  refine ⟨fun hnone => ?_, fun a ha hstage => ?_, fun hstage => ?_⟩
  · have hsame := Statement.offence?_eq_of_no_attribute hnone g.stage g'.stage
    exact ⟨resultsAgree_generate hsame history history' (sameBeyondOutput_sourceText g g' root),
      references_generate_eq hsame history history'⟩
  · obtain ⟨fault, hfault⟩ :=
      Option.ne_none_iff_exists'.mp (Statement.verdict_fragment_ne_none ha)
    refine ⟨fault, ?_⟩
    rw [show run.1 = _ from generate_result _ _, stage_serve, hstage]
    exact settle_eq_error_iff.mpr hfault
  · have hsame : ∀ v ∈ root.visits, v.offence? g.stage = v.offence? g'.stage := by
      intro v _
      rw [hstage]
    exact ⟨resultsAgree_generate hsame history history' (sameBeyondPreamble_sourceText hstage root),
      references_generate_eq hsame history history'⟩

/-- A tree that mentions the output twice and a uniform that is called like the output of
one stage, in both stages and in two dialects; with an attribute put before it, it has no
source in the fragment stage. -/
theorem generate_agrees_namesake :
    let color : Operand := .var (.temp ⟨1, .vec4⟩)
    let root : Statement := .block
      [.assign .out (.var (.uniform ⟨"gl_Position", .vec4⟩)), .assign color .out]
    let lit : Statement := .block
      [.assign color (.var (.attribute ⟨"a_Light", .vec4, false⟩)), root]
    let g : Generator := { stage := .vertex, options := {} }
    let g' : Generator := { stage := .fragment, options := { dialect := .es } }
    let history : List Call := [.generate lit]
    (∀ a, .attribute a ∉ root.mentions) ∧
      ((g.serve []).generate root).value.1 = .ok ("#ifdef GL_ES\nprecision mediump float;\n" ++
        "precision mediump int;\nprecision lowp sampler2D;\nprecision lowp samplerCube;\n" ++
        "#endif\nuniform vec4 gl_Position;\nvoid main() \x7bvec4 temp1;" ++
        "\x7bgl_Position = gl_Position;temp1 = gl_Position;\x7d\x7d\n") ∧
      ((g'.serve history).generate root).value.1 = .ok ("precision mediump float;\n" ++
        "precision mediump int;\nprecision lowp sampler2D;\nprecision lowp samplerCube;\n" ++
        "uniform vec4 gl_Position;\nvoid main() \x7bvec4 temp1;" ++
        "\x7bgl_FragColor = gl_Position;temp1 = gl_FragColor;\x7d\x7d\n") ∧
      ResultsAgree (SameBeyondOutput 2 g g') ((g.serve []).generate root).value.1
        ((g'.serve history).generate root).value.1 ∧
      ∃ fault, ((g'.serve []).generate lit).value.1 = .error fault := by
  intro color root lit g g' history
  have hmentions : root.mentions =
      [.output, .uniform ⟨"gl_Position", .vec4⟩, .temp ⟨1, .vec4⟩, .output] := rfl
  have hnone : ∀ a, .attribute a ∉ root.mentions := by
    intro a
    rw [hmentions]
    simp
  have hlight : .attribute ⟨"a_Light", .vec4, false⟩ ∈ lit.mentions := by decide
  obtain ⟨hagree, -⟩ := (generate_agrees root g g' [] history).1 hnone
  rw [hmentions] at hagree
  exact ⟨hnone, by decide +kernel, by decide +kernel, hagree,
    (generate_agrees lit g' g [] []).2.1 _ hlight rfl⟩

end Generator

end Glsl

end ShaderTree
