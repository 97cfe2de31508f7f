import ShaderTree.Interface
import ShaderTree.Proofs.SourceLines

/-!
# The interface of a program and its sources

An interface is collected from the trees of a program, and its sources are written
from them by generators.  For a program that has sources both know the same variables:
the names that a draw is compared with are those that the lines of the sources declare,
and the varyings that pass between the stages are those that the generators hold.

`DrawReport.Compares` says what a report holds in terms of the names alone: what is on
one side and not on the other, each name once and at its first place.
-/

namespace ShaderTree

open Glsl

/-- A program has sources if each of its shaders has one. -/
theorem Program.glsl_eq_ok {p : Program} {options : Options} {sources : Sources}
    (h : (p.glsl options).value = .ok sources) :
    (p.vertex.glsl options).value = .ok sources.vertex ∧
      (p.fragment.glsl options).value = .ok sources.fragment := by
  rw [Program.glsl, Logged.value_bind] at h
  cases hvertex : (p.vertex.glsl options).value with
  | error fault =>
      rw [hvertex] at h
      cases h
  | ok vertex =>
      rw [hvertex, Logged.value_bind] at h
      cases hfragment : (p.fragment.glsl options).value with
      | error fault =>
          rw [hfragment] at h
          cases h
      | ok fragment =>
          rw [hfragment] at h
          cases h
          exact ⟨rfl, rfl⟩

/-- A source that is written with the given lines. If no name in its tree has a line
break, they are the lines of the text. -/
structure IsWrittenAs (root : Statement) (source : String) (lines : List String) : Prop where
  text : source = unlines lines
  lines : (∀ v ∈ root.mentions, OneLine v.name) → textLines source = lines

/-- The tree of a shader that has a source is accepted, and the source is written with its
lines. -/
theorem Shader.isWrittenAs_of_glsl {stage : Stage} {s : Shader stage} {options : Options}
    {source : String} (h : (s.glsl options).value = .ok source) :
    s.body.IsAccepted stage ∧ IsWrittenAs s.body source (s.body.sourceLines stage options) := by
  have hgenerate :
      ((({ stage, options } : Generator).serve []).generate s.body).value.1 = .ok source := h
  obtain ⟨haccepted, hsource⟩ := Generator.generate_eq_ok_iff.mp hgenerate
  rw [← hsource]
  exact ⟨haccepted, sourceText_eq_unlines stage options s.body, fun hname =>
    Statement.textLines_sourceText haccepted hname options⟩

namespace DrawReport

/-- A report on the uniforms and attributes that a program declares, and on those that a
draw supplies and provides: on either side what the other side does not have, each name
once and at its first place. -/
structure Compares (r : DrawReport) (uniforms supplied attributes provided : List String) :
    Prop where
  missingUniforms : r.missingUniforms = (uniforms.filter (· ∉ supplied)).eraseDups
  unexpectedUniforms : r.unexpectedUniforms = (supplied.filter (· ∉ uniforms)).eraseDups
  missingAttributes : r.missingAttributes = (attributes.filter (· ∉ provided)).eraseDups
  unexpectedAttributes : r.unexpectedAttributes = (provided.filter (· ∉ attributes)).eraseDups
  nodup : ∀ names ∈ [r.missingUniforms, r.unexpectedUniforms, r.missingAttributes,
    r.unexpectedAttributes], names.Nodup

theorem eraseDups_filter_eq_nil_iff {as bs : List String} :
    (as.filter (· ∉ bs)).eraseDups = [] ↔ ∀ a ∈ as, a ∈ bs := by
  rw [eraseDups_eq_nil_iff, List.filter_eq_nil_iff]
  simp

namespace Compares

variable {r : DrawReport} {uniforms supplied attributes provided : List String}

/-- A report is clean if either side has the names of the other. -/
theorem isClean_iff (h : r.Compares uniforms supplied attributes provided) :
    r.isClean ↔ (∀ name, name ∈ uniforms ↔ name ∈ supplied) ∧
      ∀ name, name ∈ attributes ↔ name ∈ provided := by
  simp only [isClean, Bool.and_eq_true, List.isEmpty_iff, h.missingUniforms, h.unexpectedUniforms,
    h.missingAttributes, h.unexpectedAttributes, eraseDups_filter_eq_nil_iff]
  constructor
  · rintro ⟨⟨⟨huniforms, hsupplied⟩, hattributes⟩, hprovided⟩
    exact ⟨fun name => ⟨huniforms name, hsupplied name⟩,
      fun name => ⟨hattributes name, hprovided name⟩⟩
  · rintro ⟨huniforms, hattributes⟩
    exact ⟨⟨⟨fun name => (huniforms name).mp, fun name => (huniforms name).mpr⟩,
      fun name => (hattributes name).mp⟩, fun name => (hattributes name).mpr⟩

/-- Repeats among the declared uniforms do not count. -/
theorem of_eraseDups_eq {uniforms' : List String}
    (h : r.Compares uniforms supplied attributes provided)
    (huniforms : uniforms.eraseDups = uniforms'.eraseDups) :
    r.Compares uniforms' supplied attributes provided := by
  have hmem : ∀ name, name ∈ uniforms ↔ name ∈ uniforms' := by
    intro name
    rw [← List.mem_eraseDups, huniforms, List.mem_eraseDups]
  refine ⟨?_, ?_, h.missingAttributes, h.unexpectedAttributes, h.nodup⟩
  · rw [h.missingUniforms, ← filter_eraseDups, huniforms, filter_eraseDups]
  · simp only [h.unexpectedUniforms, hmem]

end Compares

end DrawReport

theorem Interface.compares_checkDraw (i : Interface) (layout : VertexLayout)
    (supplied : List String) :
    (i.checkDraw layout supplied).Compares (i.uniforms.toList.map (·.name)) supplied
      (i.attributes.toList.map (·.name)) (layout.attributes.map (·.name)) := by
  refine ⟨OrderedSet.toList_diff_ofList _ _, OrderedSet.toList_diff_ofList _ _,
    OrderedSet.toList_diff_ofList _ _, OrderedSet.toList_diff_ofList _ _, ?_⟩
  simp only [List.forall_mem_cons]
  exact ⟨OrderedSet.nodup _, OrderedSet.nodup _, OrderedSet.nodup _, OrderedSet.nodup _,
    List.forall_mem_nil _⟩

namespace Program

/-- The sets of an interface are the variables of the trees. -/
theorem toList_interface (p : Program) :
    p.interface.attributes.toList = p.vertex.body.attributes ∧
      p.interface.uniforms.toList =
        (p.vertex.body.uniforms ++ p.fragment.body.uniforms).eraseDups ∧
      p.interface.vertexVaryings.toList = p.vertex.body.varyings ∧
      p.interface.fragmentVaryings.toList = p.fragment.body.varyings := by
  obtain ⟨hattributes, huniforms, hvaryings, -⟩ :=
    References.toList_insertMany_mentions p.vertex.body
  obtain ⟨-, huniforms', hvaryings', -⟩ := References.toList_insertMany_mentions p.fragment.body
  simp only [interface, References.collect_eq_insertMany]
  refine ⟨hattributes, ?_, hvaryings, hvaryings'⟩
  rw [OrderedSet.toList_union, huniforms, huniforms']

/-- A draw is compared with the names of the variables of the trees. -/
theorem compares_checkDraw (p : Program) (layout : VertexLayout) (supplied : List String) :
    (p.interface.checkDraw layout supplied).Compares
      (p.vertex.body.uniforms.map (·.name) ++ p.fragment.body.uniforms.map (·.name)) supplied
      (p.vertex.body.attributes.map (·.name)) (layout.attributes.map (·.name)) := by
  obtain ⟨hattributes, huniforms, -, -⟩ := p.toList_interface
  have h := p.interface.compares_checkDraw layout supplied
  rw [hattributes, huniforms] at h
  -- one name may stand for two uniforms, so names can repeat where the uniforms do not
  refine h.of_eraseDups_eq ?_
  rw [eraseDups_map_eraseDups, List.map_append]

variable {p : Program} {options : Options} {sources : Sources}

/-- The report on a draw compares what it supplies with the names that the lines of the
sources declare. -/
theorem checkDraw_compares_sources (h : (p.glsl options).value = .ok sources)
    (layout : VertexLayout) (supplied : List String) :
    let vertex := p.vertex.body.sourceLines .vertex options
    let fragment := p.fragment.body.sourceLines .fragment options
    let uniforms := declaredNames "uniform " vertex ++ declaredNames "uniform " fragment
    let attributes := declaredNames "attribute " vertex
    let provided := layout.attributes.map (·.name)
    let report := p.interface.checkDraw layout supplied
    IsWrittenAs p.vertex.body sources.vertex vertex ∧
      IsWrittenAs p.fragment.body sources.fragment fragment ∧
      uniforms = p.vertex.body.uniforms.map (·.name) ++ p.fragment.body.uniforms.map (·.name) ∧
      attributes = p.vertex.body.attributes.map (·.name) ∧
      report.Compares uniforms supplied attributes provided ∧
      (report.isClean ↔ (∀ name, name ∈ uniforms ↔ name ∈ supplied) ∧
        ∀ name, name ∈ attributes ↔ name ∈ provided) := by
  intro vertex fragment uniforms attributes provided report
  obtain ⟨hvertex, hfragment⟩ := glsl_eq_ok h
  obtain ⟨haccepted, hwritten⟩ := Shader.isWrittenAs_of_glsl hvertex
  obtain ⟨haccepted', hwritten'⟩ := Shader.isWrittenAs_of_glsl hfragment
  have huniforms : uniforms =
      p.vertex.body.uniforms.map (·.name) ++ p.fragment.body.uniforms.map (·.name) :=
    congrArg₂ (· ++ ·) (declaredNames_uniform haccepted.declarable .vertex options)
      (declaredNames_uniform haccepted'.declarable .fragment options)
  have hattributes : attributes = p.vertex.body.attributes.map (·.name) :=
    declaredNames_attribute haccepted.declarable .vertex options
  have hcompares : report.Compares uniforms supplied attributes provided := by
    rw [huniforms, hattributes]
    exact p.compares_checkDraw layout supplied
  exact ⟨hwritten, hwritten', huniforms, hattributes, hcompares, hcompares.isClean_iff⟩

/-- A name that is a uniform of two types in two stages, and a draw that repeats itself. -/
theorem checkDraw_compares_sources_tint :
    let vertex : Shader .vertex := ⟨.block
      [.assign .out (.var (.attribute ⟨"a_Place", .vec4, false⟩)),
        .assign (.var (.varying ⟨"v_Color", .vec4⟩)) (.binop .mul
          (.var (.uniform ⟨"u_Tint", .mat4⟩)) (.var (.attribute ⟨"a_Color", .byte4, true⟩)))]⟩
    let fragment : Shader .fragment := ⟨.assign .out (.binop .mul
      (.binop .mul (.var (.uniform ⟨"u_Fade", .float⟩)) (.var (.uniform ⟨"u_Tint", .vec4⟩)))
      (.var (.varying ⟨"v_Color", .vec4⟩)))⟩
    let p : Program := ⟨⟨7⟩, "tint", vertex, fragment⟩
    let sources : Sources :=
      { vertex := "precision mediump float;\nprecision mediump int;\nprecision lowp sampler2D;\n" ++
          "precision lowp samplerCube;\nattribute vec4 a_Place;\nattribute vec4 a_Color;\n" ++
          "uniform mat4 u_Tint;\nvarying vec4 v_Color;\n" ++
          "void main() \x7b\x7bgl_Position = a_Place;v_Color = (u_Tint*a_Color);\x7d\x7d\n"
        fragment := "precision mediump float;\nprecision mediump int;\n" ++
          "precision lowp sampler2D;\nprecision lowp samplerCube;\nuniform float u_Fade;\n" ++
          "uniform vec4 u_Tint;\nvarying vec4 v_Color;\n" ++
          "void main() \x7bgl_FragColor = ((u_Fade*u_Tint)*v_Color);\x7d\n" }
    let layout : VertexLayout :=
      ⟨[⟨"a_Place", .vec4, false⟩, ⟨"a_Uv", .vec2, false⟩, ⟨"a_Uv", .vec4, false⟩]⟩
    let supplied := ["u_Sun", "u_Fade", "u_Sun"]
    (p.glsl { dialect := .es }).value = .ok sources ∧
      p.interface.checkDraw layout supplied =
        ⟨["u_Tint"], ["u_Sun"], ["a_Color"], ["a_Uv"]⟩ ∧
      (p.interface.checkDraw layout supplied).Compares ["u_Tint", "u_Fade", "u_Tint"] supplied
        ["a_Place", "a_Color"] ["a_Place", "a_Uv", "a_Uv"] := by
  intro vertex fragment p sources layout supplied
  have h : (p.glsl { dialect := .es }).value = .ok sources := by decide +kernel
  obtain ⟨-, -, huniforms, hattributes, hcompares, -⟩ :=
    checkDraw_compares_sources h layout supplied
  rw [huniforms, hattributes] at hcompares
  exact ⟨h, by decide +kernel, hcompares⟩

theorem toList_unmatchedVaryings (p : Program) :
    p.interface.unmatchedVaryings.toList =
      p.fragment.body.varyings.filter (· ∉ p.vertex.body.varyings) := by
  obtain ⟨-, -, hsent, hreceived⟩ := p.toList_interface
  rw [← hsent, ← hreceived]
  rfl

/-- The unmatched varyings are those that the generator of the fragment stage holds and
that of the vertex stage does not. If there are none, what the fragment source declares as
a varying the vertex source declares too. -/
theorem unmatchedVaryings_eq_filter_held (h : (p.glsl options).value = .ok sources)
    (history history' : List Generator.Call) :
    let sender : Generator := { stage := .vertex, options }
    let receiver : Generator := { stage := .fragment, options }
    let sent := ((sender.serve history).generate p.vertex.body).value.2.references.varyings.toList
    let received :=
      ((receiver.serve history').generate p.fragment.body).value.2.references.varyings.toList
    let vertex := p.vertex.body.sourceLines .vertex options
    let fragment := p.fragment.body.sourceLines .fragment options
    let unmatched := p.interface.unmatchedVaryings.toList
    received = (p.fragment.body.mentions.filterMap Variable.varying?).eraseDups ∧
      unmatched = received.filter (· ∉ sent) ∧ unmatched.Nodup ∧
      (unmatched = [] ↔ ∀ v ∈ received, v ∈ sent) ∧
      IsWrittenAs p.vertex.body sources.vertex vertex ∧
      IsWrittenAs p.fragment.body sources.fragment fragment ∧
      (unmatched = [] → ∀ rest, "varying " ++ rest ∈ fragment → "varying " ++ rest ∈ vertex) := by
  intro sender receiver sent received vertex fragment unmatched
  obtain ⟨hvertex, hfragment⟩ := glsl_eq_ok h
  obtain ⟨haccepted, hwritten⟩ := Shader.isWrittenAs_of_glsl hvertex
  obtain ⟨haccepted', hwritten'⟩ := Shader.isWrittenAs_of_glsl hfragment
  have hsent : sent = p.vertex.body.varyings :=
    (Generator.toList_references_of_isAccepted (g := sender) history haccepted).2.2.1
  have hreceived : received = p.fragment.body.varyings :=
    (Generator.toList_references_of_isAccepted (g := receiver) history' haccepted').2.2.1
  have hunmatched : unmatched = received.filter (· ∉ sent) := by
    rw [hsent, hreceived]
    exact p.toList_unmatchedVaryings
  have hnil : unmatched = [] ↔ ∀ v ∈ received, v ∈ sent := by
    rw [hunmatched, List.filter_eq_nil_iff]
    simp
  refine ⟨hreceived, hunmatched, OrderedSet.nodup _, hnil, hwritten, hwritten',
    fun hnone rest hline => ?_⟩
  obtain ⟨w, hw, hrest⟩ := exists_varying_of_mem_sourceLines hline
  rw [hrest]
  refine declarationText_mem_sourceLines ?_ .vertex options
  rw [← hsent]
  rw [← hreceived] at hw
  exact hnil.mp hnone w hw

/-- Two programs with the same vertex stage: one reads what is sent to it, the other reads
a varying of the same name and of another type. -/
theorem unmatchedVaryings_eq_filter_held_glow :
    let vertex : Shader .vertex :=
      ⟨.assign (.var (.varying ⟨"v_Glow", .vec4⟩)) (.vector .vec4 [.float ⟨0⟩])⟩
    let program (ty : Ty) : Program :=
      ⟨⟨7⟩, "glow", vertex, ⟨.assign .out (.vector .vec4 [.var (.varying ⟨"v_Glow", ty⟩)])⟩⟩
    let sources (word : String) : Sources :=
      { vertex := "precision mediump float;\nprecision mediump int;\nprecision lowp sampler2D;\n" ++
          "precision lowp samplerCube;\nvarying vec4 v_Glow;\n" ++
          "void main() \x7bv_Glow = vec4(0.0);\x7d\n"
        fragment := "precision mediump float;\nprecision mediump int;\n" ++
          "precision lowp sampler2D;\nprecision lowp samplerCube;\nvarying " ++ word ++
          " v_Glow;\nvoid main() \x7bgl_FragColor = vec4(v_Glow);\x7d\n" }
    let options : Options := { dialect := .es }
    ((program .vec4).glsl options).value = .ok (sources "vec4") ∧
      (∀ rest, "varying " ++ rest ∈ (program .vec4).fragment.body.sourceLines .fragment options →
        "varying " ++ rest ∈ vertex.body.sourceLines .vertex options) ∧
      ((program .float).glsl options).value = .ok (sources "float") ∧
      (program .float).interface.unmatchedVaryings.toList = [⟨"v_Glow", .float⟩] := by
  intro vertex program sources options
  have h : ((program .vec4).glsl options).value = .ok (sources "vec4") := by decide +kernel
  obtain ⟨-, -, -, -, -, -, hlines⟩ := unmatchedVaryings_eq_filter_held h [] []
  exact ⟨h, hlines (by decide +kernel), by decide +kernel, by decide +kernel⟩

end Program

end ShaderTree
