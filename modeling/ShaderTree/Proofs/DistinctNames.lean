import ShaderTree.Proofs.Generation

/-!
# The names of the variables in a source

Every occurrence of a variable in `main` is written with its name, and the stage's
output with the name of a builtin variable.  The names that are declared together
are distinct, so in a source two declared variables are never written alike.  The
output is not declared and its name is not among those that are compared: it is
written like another variable exactly if that variable was given the name of the
builtin.
-/

namespace ShaderTree

open Glsl

/-- What is written in a stage where a variable occurs. -/
def Variable.written (stage : Stage) (v : Variable) : String := (Draft.ofVariable stage v).text

/-- A variable that is declared under the name of the stage's output. -/
def Variable.ShadowsOutput (stage : Stage) (v : Variable) : Prop :=
  v ≠ .output ∧ v.name = stage.outputName

instance (stage : Stage) (v : Variable) : Decidable (v.ShadowsOutput stage) :=
  inferInstanceAs (Decidable (v ≠ .output ∧ v.name = stage.outputName))

namespace Statement

variable {stage : Stage} {root : Statement} {v w : Variable}

theorem ofVariable_mem_visits (hv : v ∈ root.mentions) : Visit.ofVariable v ∈ root.visits := by
  obtain ⟨visit, hvisit, hmention⟩ := List.mem_filterMap.mp hv
  cases visit <;> cases hmention <;> exact hvisit

theorem written_eq_spelling (h : root.IsUnbroken stage) (hv : v ∈ root.mentions) :
    v.written stage = v.spelling stage.outputName := by
  have hrenders := Draft.renders_ofVariable stage v
  refine hrenders.text ?_
  rw [hrenders.fault, List.findSome?_singleton, h _ (ofVariable_mem_visits hv)]

/-- Declared variables that are written alike are the same. -/
theorem eq_of_written_eq (h : root.IsAccepted stage) (hv : v ∈ root.mentions)
    (hw : w ∈ root.mentions) (hvout : v ≠ .output) (hwout : w ≠ .output)
    (heq : v.written stage = w.written stage) : v = w := by
  rw [written_eq_spelling h.unbroken hv, written_eq_spelling h.unbroken hw,
    Variable.spelling_eq_name hvout, Variable.spelling_eq_name hwout] at heq
  exact List.inj_on_of_nodup_map h.distinct (mem_declared.mpr ⟨hv, hvout⟩)
    (mem_declared.mpr ⟨hw, hwout⟩) heq

/-- The output is written like a declared variable exactly if that has its name. -/
theorem written_output_eq_iff (h : root.IsUnbroken stage) (hw : w ∈ root.mentions)
    (hwout : w ≠ .output) :
    Variable.output.written stage = w.written stage ↔ w.ShadowsOutput stage := by
  have houtput : Variable.output.written stage = stage.outputName := by cases stage <;> rfl
  rw [houtput, written_eq_spelling h hw, Variable.spelling_eq_name hwout, eq_comm]
  exact (and_iff_right hwout).symm

theorem written_eq_iff (h : root.IsAccepted stage) (hv : v ∈ root.mentions)
    (hw : w ∈ root.mentions) (hne : v ≠ w) :
    v.written stage = w.written stage ↔
      v = .output ∧ w.ShadowsOutput stage ∨ w = .output ∧ v.ShadowsOutput stage := by
  by_cases hvout : v = .output
  · have hwout : w ≠ .output := fun hwout => hne (hvout.trans hwout.symm)
    rw [hvout, written_output_eq_iff h.unbroken hw hwout]
    simp [hwout]
  · by_cases hwout : w = .output
    · rw [hwout, eq_comm, written_output_eq_iff h.unbroken hv hvout]
      simp [hvout]
    · simp only [hvout, hwout, false_and, or_false, iff_false]
      exact fun heq => hne (eq_of_written_eq h hv hw hvout hwout heq)

end Statement

namespace Glsl.Generator

/-- In a source, two variables of the tree are written alike exactly if one of them
is the output and the other has its name. So all are told apart exactly if the tree
does not mention the output together with a variable of its name. -/
theorem generate_written_eq_iff (g : Generator) (history : List Call) (root : Statement)
    (source : String) (h : ((g.serve history).generate root).value.1 = .ok source) :
    (∀ v ∈ root.mentions, ∀ w ∈ root.mentions, v ≠ w →
        (v.written g.stage = w.written g.stage ↔
          v = .output ∧ w.ShadowsOutput g.stage ∨ w = .output ∧ v.ShadowsOutput g.stage)) ∧
      ((∀ v ∈ root.mentions, ∀ w ∈ root.mentions, v ≠ w →
          v.written g.stage ≠ w.written g.stage) ↔
        (.output ∈ root.mentions → ∀ v ∈ root.mentions, ¬ v.ShadowsOutput g.stage)) := by
  obtain ⟨haccepted, -⟩ := generate_eq_ok_iff.mp h
  have halike : ∀ v ∈ root.mentions, ∀ w ∈ root.mentions, v ≠ w → _ :=
    fun v hv w hw => Statement.written_eq_iff haccepted hv hw
  refine ⟨halike, ?_, ?_⟩
  · intro hapart houtput v hv hshadows
    exact hapart .output houtput v hv hshadows.1.symm
      ((halike .output houtput v hv hshadows.1.symm).mpr (.inl ⟨rfl, hshadows⟩))
  · intro hclear v hv w hw hne heq
    rcases (halike v hv w hw hne).mp heq with ⟨rfl, hshadows⟩ | ⟨rfl, hshadows⟩
    · exact hclear hv w hw hshadows
    · exact hclear hw v hv hshadows

/-- The name of the other stage's output is a name like any other, and so is one that
could be that of a temporary. -/
theorem generate_written_eq_iff_namesake :
    let color : Variable := .attribute ⟨"gl_FragColor", .vec4, false⟩
    let tint : Variable := .uniform ⟨"temp1", .vec4⟩
    let root : Statement := .block
      [.assign (.var (.temp ⟨0, .vec4⟩)) (.var tint),
        .assign .out (.binop .mul (.var color) (.var (.temp ⟨0, .vec4⟩)))]
    let g : Generator := { stage := .vertex, options := { dialect := .es } }
    let source :=
      "precision mediump float;\nprecision mediump int;\nprecision lowp sampler2D;\n" ++
        "precision lowp samplerCube;\nattribute vec4 gl_FragColor;\nuniform vec4 temp1;\n" ++
        "void main() \x7bvec4 temp0;\x7btemp0 = temp1;" ++
        "gl_Position = (gl_FragColor*temp0);\x7d\x7d\n"
    ((g.serve [.reset]).generate root).value.1 = .ok source ∧ .output ∈ root.mentions ∧
      ∀ v ∈ root.mentions, ∀ w ∈ root.mentions, v ≠ w →
        v.written g.stage ≠ w.written g.stage := by
  intro color tint root g source
  have hsource : ((g.serve [.reset]).generate root).value.1 = .ok source := by decide +kernel
  have hclear : ∀ v ∈ root.mentions, ¬ v.ShadowsOutput g.stage := by decide +kernel
  exact ⟨hsource, by decide +kernel,
    (generate_written_eq_iff g [.reset] root source hsource).2.mpr fun _ => hclear⟩

/-- A uniform and the output that are written alike in a source. -/
theorem generate_confuses_output :
    let color : Variable := .uniform ⟨"gl_FragColor", .vec4⟩
    let root : Statement := .assign .out (.var color)
    let g : Generator := { stage := .fragment, options := { dialect := .es } }
    let source :=
      "precision mediump float;\nprecision mediump int;\nprecision lowp sampler2D;\n" ++
        "precision lowp samplerCube;\nuniform vec4 gl_FragColor;\n" ++
        "void main() \x7bgl_FragColor = gl_FragColor;\x7d\n"
    (g.generate root).value.1 = .ok source ∧ color ∈ root.mentions ∧
      .output ∈ root.mentions ∧ color ≠ .output ∧
      color.written g.stage = Variable.output.written g.stage := by
  decide +kernel

end Glsl.Generator

end ShaderTree
