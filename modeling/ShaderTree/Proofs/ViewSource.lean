import ShaderTree.Proofs.Generation
import ShaderTree.Proofs.ShaderView

/-!
# A tree and its view have one source

The view of a tree writes every type as the shader sees it.  A type and its view have
the same word and the same number of elements, and the type of a value commutes with
taking views, so a node of the view offends exactly if the node of the tree does, and
both trees have the same text.

Variables that differ in their views differ in the tree, but not the other way round:
the view may join two variables that only normalization told apart.  In a tree with a
source this does not happen, since the two would share a name.  So the variables that
the view declares are the views of those that the tree declares, in the same order.
-/

namespace ShaderTree

open Glsl

namespace Ty

@[simp] theorem glslName?_shaderView (ty : Ty) : ty.shaderView.glslName? = ty.glslName? := by
  cases ty <;> rfl

@[simp] theorem elementCount_shaderView (ty : Ty) :
    ty.shaderView.elementCount = ty.elementCount := by
  cases ty <;> rfl

@[simp] theorem isSwizzleable_shaderView (ty : Ty) :
    ty.shaderView.isSwizzleable = ty.isSwizzleable := by
  cases ty <;> rfl

end Ty

/-- A combination of two views is the view of the combination. -/
theorem BinOp.valueTy_shaderView (op : BinOp) (left right : Ty) :
    op.valueTy left.shaderView right.shaderView = (op.valueTy left right).shaderView := by
  cases op <;> cases left <;> cases right <;> rfl

theorem Builtin.resultTy_shaderView (f : Builtin) (args : List Ty) :
    f.resultTy (args.map Ty.shaderView) = (f.resultTy args).shaderView := by
  have hlast : ((args.map Ty.shaderView).getLast?).getD .float =
      (args.getLast?.getD .float).shaderView := by
    rw [List.getLast?_map]
    exact Option.getD_map Ty.shaderView .float _
  have hhead : ((args.map Ty.shaderView).head?).getD .float =
      (args.head?.getD .float).shaderView := by
    rw [List.head?_map]
    exact Option.getD_map Ty.shaderView .float _
  cases f
  case texture2D => rfl
  case step => exact hlast
  case smoothStep => exact hlast
  all_goals exact hhead

namespace Operand

mutual

/-- The type of a value in the view is the view of its type. -/
theorem valueTy_shaderView : ∀ o : Operand, o.shaderView.valueTy = o.valueTy.shaderView
  | .var v => by cases v <;> rfl
  | .int n => rfl
  | .float x => rfl
  | .bool b => rfl
  | .binop op left right => by
      rw [shaderView, valueTy, valueTy, valueTy_shaderView left, valueTy_shaderView right,
        op.valueTy_shaderView]
  | .vector ty parts => rfl
  | .swizzle source mask => by
      rw [shaderView, valueTy, valueTy, valueTy_shaderView source]
      -- a mask of another length than one to four leaves the type of the source
      unfold Ty.floatVector?
      split <;> rfl
  | .call f args => by
      rw [shaderView, valueTy, valueTy, valueTys_shaderViewAll args, f.resultTy_shaderView]

theorem valueTys_shaderViewAll : ∀ os : List Operand,
    valueTys (shaderViewAll os) = (valueTys os).map Ty.shaderView
  | [] => rfl
  | o :: rest => by
      rw [shaderViewAll, valueTys, valueTys, List.map_cons, valueTy_shaderView o,
        valueTys_shaderViewAll rest]

end

mutual

/-- An operand is written like its view. -/
theorem text_shaderView (output : String) : ∀ o : Operand,
    o.shaderView.text output = o.text output
  | .var v => v.spelling_shaderView output
  | .int n => rfl
  | .float x => rfl
  | .bool b => rfl
  | .binop op left right => by
      rw [shaderView, text, text, text_shaderView output left, text_shaderView output right]
  | .vector ty parts => by
      rw [shaderView, text, text, ty.glslName?_shaderView, textAll_shaderViewAll output "," parts]
  | .swizzle source mask => by
      rw [shaderView, text, text, text_shaderView output source]
  | .call f args => by
      rw [shaderView, text, text, textAll_shaderViewAll output ", " args]

theorem textAll_shaderViewAll (output separator : String) : ∀ os : List Operand,
    textAll output separator (shaderViewAll os) = textAll output separator os
  | [] => rfl
  | [o] => text_shaderView output o
  | o :: p :: rest => by
      have hrest := textAll_shaderViewAll output separator (p :: rest)
      rw [shaderViewAll] at hrest
      rw [shaderViewAll, shaderViewAll, textAll, textAll, text_shaderView output o, hrest]

end

end Operand

namespace Statement

mutual

/-- A statement is written like its view. -/
theorem text_shaderView (output : String) : ∀ s : Statement,
    s.shaderView.text output = s.text output
  | .block body => by
      rw [shaderView, text, text, textAll_shaderViewAll output body]
  | .assign target source => by
      rw [shaderView, text, text, target.text_shaderView, source.text_shaderView]
  | .ifThen condition body => by
      rw [shaderView, text, text, condition.text_shaderView, text_shaderView output body]
  | .ifThenElse condition body otherwise => by
      rw [shaderView, text, text, condition.text_shaderView, text_shaderView output body,
        text_shaderView output otherwise]

theorem textAll_shaderViewAll (output : String) : ∀ body : List Statement,
    textAll output (shaderViewAll body) = textAll output body
  | [] => rfl
  | s :: rest => by
      rw [shaderViewAll, textAll, textAll, text_shaderView output s,
        textAll_shaderViewAll output rest]

end

end Statement

/-- An attribute with the type that it has in a shader, which does not know whether it
was normalized. -/
def Attribute.shaderView (a : Attribute) : Attribute := ⟨a.name, a.ty.shaderView, false⟩

/-- A uniform with the type that it has in a shader. -/
def Uniform.shaderView (u : Uniform) : Uniform := ⟨u.name, u.ty.shaderView⟩

/-- A varying with the type that it has in a shader. -/
def Varying.shaderView (v : Varying) : Varying := ⟨v.name, v.ty.shaderView⟩

/-- A temporary with the type that it has in a shader. -/
def Temp.shaderView (t : Temp) : Temp := ⟨t.id, t.ty.shaderView⟩

namespace Visit

/-- A visit to the same place in the view of a tree. -/
def shaderView : Visit → Visit
  | .statement s => .statement s.shaderView
  | .block body => .block (Statement.shaderViewAll body)
  | .assign target source => .assign target.shaderView source.shaderView
  | .conditional condition hasElse => .conditional condition.shaderView hasElse
  | .operand o => .operand o.shaderView
  | .variable v => .variable v.shaderView
  | .attribute a => .attribute a.shaderView
  | .varying v => .varying v.shaderView
  | .uniform u => .uniform u.shaderView
  | .temp t => .temp t.shaderView
  | .output => .output
  | .int n => .int n
  | .float x => .float x
  | .bool b => .bool b
  | .binop op left right => .binop op left.shaderView right.shaderView
  | .vector ty parts => .vector ty.shaderView (Operand.shaderViewAll parts)
  | .swizzle source mask => .swizzle source.shaderView mask
  | .call f args => .call f (Operand.shaderViewAll args)

theorem ofVariable_shaderView (v : Variable) :
    ofVariable v.shaderView = (ofVariable v).shaderView := by
  cases v <;> rfl

theorem mention?_shaderView (v : Visit) :
    v.shaderView.mention? = v.mention?.map Variable.shaderView := by
  cases v <;> rfl

end Visit

namespace Operand

mutual

theorem visits_shaderView : ∀ o : Operand, o.shaderView.visits = o.visits.map Visit.shaderView
  | .var v => by
      rw [shaderView, visits, visits, Visit.ofVariable_shaderView]
      rfl
  | .int n => rfl
  | .float x => rfl
  | .bool b => rfl
  | .binop op left right => by
      rw [shaderView, visits, visits, visits_shaderView left, visits_shaderView right,
        ← List.map_append]
      rfl
  | .vector ty parts => by
      rw [shaderView, visits, visits, visitsAll_shaderViewAll parts]
      rfl
  | .swizzle source mask => by
      rw [shaderView, visits, visits, visits_shaderView source]
      rfl
  | .call f args => by
      rw [shaderView, visits, visits, visitsAll_shaderViewAll args]
      rfl

theorem visitsAll_shaderViewAll : ∀ os : List Operand,
    visitsAll (shaderViewAll os) = (visitsAll os).map Visit.shaderView
  | [] => rfl
  | o :: rest => by
      rw [shaderViewAll, visitsAll, visitsAll, List.map_append, visits_shaderView o,
        visitsAll_shaderViewAll rest]

end

end Operand

namespace Statement

mutual

/-- A walk meets the views of what it meets in the tree. -/
theorem visits_shaderView : ∀ s : Statement, s.shaderView.visits = s.visits.map Visit.shaderView
  | .block body => by
      rw [shaderView, visits, visits, visitsAll_shaderViewAll body]
      rfl
  | .assign target source => by
      rw [shaderView, visits, visits, target.visits_shaderView, source.visits_shaderView,
        ← List.map_append]
      rfl
  | .ifThen condition body => by
      rw [shaderView, visits, visits, condition.visits_shaderView, visits_shaderView body,
        ← List.map_append]
      rfl
  | .ifThenElse condition body otherwise => by
      rw [shaderView, visits, visits, condition.visits_shaderView, visits_shaderView body,
        visits_shaderView otherwise, ← List.map_append, ← List.map_append]
      rfl

theorem visitsAll_shaderViewAll : ∀ body : List Statement,
    visitsAll (shaderViewAll body) = (visitsAll body).map Visit.shaderView
  | [] => rfl
  | s :: rest => by
      rw [shaderViewAll, visitsAll, visitsAll, List.map_append, visits_shaderView s,
        visitsAll_shaderViewAll rest]

end

theorem mentions_shaderView (s : Statement) :
    s.shaderView.mentions = s.mentions.map Variable.shaderView := by
  rw [mentions, visits_shaderView, List.filterMap_map, mentions, List.map_filterMap]
  exact List.filterMap_congr fun v _ => v.mention?_shaderView

end Statement

section Checks

/-- A constructor of a view is well formed exactly if the constructor is. -/
theorem fault?_checkParts_shaderView (ty : Ty) (parts : List Ty) :
    fault? (checkParts ty.shaderView (parts.map Ty.shaderView)) = none ↔
      fault? (checkParts ty parts) = none := by
  have hfound : (parts.map Ty.shaderView).foldl (· + ·.elementCount) 0 =
      parts.foldl (· + ·.elementCount) 0 := by
    simp only [List.foldl_map, Ty.elementCount_shaderView]
  simp only [checkParts, hfound, List.length_map, Ty.elementCount_shaderView]
  split <;> simp [fault?]

theorem maskProblem?_shaderView (ty : Ty) (mask : String) :
    maskProblem? ty.shaderView mask = maskProblem? ty mask := by
  simp only [maskProblem?, Ty.isSwizzleable_shaderView, Ty.elementCount_shaderView]

theorem fault?_checkMask_shaderView (ty : Ty) (mask : String) :
    fault? (checkMask ty.shaderView mask) = none ↔ fault? (checkMask ty mask) = none := by
  rw [checkMask, checkMask, maskProblem?_shaderView]
  split <;> simp [fault?]

/-- A node of the view offends exactly if the node of the tree does. -/
theorem Visit.offence?_shaderView (stage : Stage) : ∀ v : Visit,
    v.shaderView.offence? stage = none ↔ v.offence? stage = none
  | .attribute a => by
      simp only [shaderView, offence?]
      split <;> simp
  | .vector ty parts => by
      have htys : (Operand.shaderViewAll parts).map Operand.valueTy =
          (parts.map Operand.valueTy).map Ty.shaderView := by
        rw [← Operand.valueTys_eq_map, ← Operand.valueTys_eq_map, Operand.valueTys_shaderViewAll]
      simp only [shaderView, offence?, Ty.glslName?_shaderView, htys]
      cases ty.glslName? with
      | none => simp
      | some word => exact fault?_checkParts_shaderView ty _
  | .swizzle source mask => by
      simp only [shaderView, offence?, Operand.valueTy_shaderView]
      exact fault?_checkMask_shaderView source.valueTy mask
  | .statement _ | .block _ | .assign _ _ | .conditional _ _ | .operand _ | .variable _
  | .varying _ | .uniform _ | .temp _ | .output | .int _ | .float _ | .bool _ | .binop _ _ _
  | .call _ _ => Iff.rfl

end Checks

namespace Variable

@[simp] theorem name_shaderView (v : Variable) : v.shaderView.name = v.name :=
  v.spelling_shaderView "out"

@[simp] theorem glslName?_ty_shaderView (v : Variable) :
    v.shaderView.ty.glslName? = v.ty.glslName? := by
  cases v
  case output => rfl
  all_goals exact Ty.glslName?_shaderView _

theorem shaderView_eq_output_iff {v : Variable} : v.shaderView = .output ↔ v = .output := by
  cases v <;> simp [shaderView]

end Variable

namespace Statement

variable {s : Statement}

/-- Variables of distinct names keep apart in the view. -/
theorem eq_of_shaderView_eq (hdistinct : (s.declared.map Variable.name).Nodup) {v w : Variable}
    (hv : v ∈ s.mentions) (hw : w ∈ s.mentions) (h : v.shaderView = w.shaderView) : v = w := by
  by_cases houtput : v = .output
  · rw [houtput] at h ⊢
    exact (Variable.shaderView_eq_output_iff.mp h.symm).symm
  · have houtput' : w ≠ .output := fun hw =>
      houtput (Variable.shaderView_eq_output_iff.mp
        (h.trans (Variable.shaderView_eq_output_iff.mpr hw)))
    have hname : v.name = w.name := by
      rw [← v.name_shaderView, h, w.name_shaderView]
    exact List.inj_on_of_nodup_map hdistinct (mem_declared.mpr ⟨hv, houtput⟩)
      (mem_declared.mpr ⟨hw, houtput'⟩) hname

/-- One class of variables in the view: `pick` chooses the class, `make` gives it back as
variables, and `view` is the view within the class. -/
theorem eraseDups_class_shaderView {α : Type} [DecidableEq α] {pick : Variable → Option α}
    {make : α → Variable} (view : α → α)
    (hpick : ∀ {v : Variable} {a : α}, pick v = some a ↔ v = make a)
    (hview : ∀ v : Variable, pick v.shaderView = (pick v).map view)
    (hmake : ∀ a, make (view a) = (make a).shaderView)
    (hdistinct : (s.declared.map Variable.name).Nodup) :
    (s.shaderView.mentions.filterMap pick).eraseDups =
      (s.mentions.filterMap pick).eraseDups.map view := by
  have hclass : s.shaderView.mentions.filterMap pick = (s.mentions.filterMap pick).map view := by
    rw [mentions_shaderView, List.filterMap_map, List.map_filterMap]
    exact List.filterMap_congr fun v _ => hview v
  have hmem : ∀ {a : α}, a ∈ s.mentions.filterMap pick → make a ∈ s.mentions := by
    intro a ha
    obtain ⟨v, hv, hva⟩ := List.mem_filterMap.mp ha
    rwa [hpick.mp hva] at hv
  rw [hclass]
  refine eraseDups_map fun a ha b hb hab => ?_
  have hmade : make a = make b := by
    refine eq_of_shaderView_eq hdistinct (hmem ha) (hmem hb) ?_
    rw [← hmake, ← hmake, hab]
  exact Option.some.inj ((hpick.mpr rfl).symm.trans (hpick.mpr hmade))

section Classes

variable (hdistinct : (s.declared.map Variable.name).Nodup)

include hdistinct

theorem attributes_shaderView : s.shaderView.attributes = s.attributes.map Attribute.shaderView :=
  eraseDups_class_shaderView _ Variable.attribute?_eq_some_iff (fun v => by cases v <;> rfl)
    (fun _ => rfl) hdistinct

theorem uniforms_shaderView : s.shaderView.uniforms = s.uniforms.map Uniform.shaderView :=
  eraseDups_class_shaderView _ Variable.uniform?_eq_some_iff (fun v => by cases v <;> rfl)
    (fun _ => rfl) hdistinct

theorem varyings_shaderView : s.shaderView.varyings = s.varyings.map Varying.shaderView :=
  eraseDups_class_shaderView _ Variable.varying?_eq_some_iff (fun v => by cases v <;> rfl)
    (fun _ => rfl) hdistinct

theorem temps_shaderView : s.shaderView.temps = s.temps.map Temp.shaderView :=
  eraseDups_class_shaderView _ Variable.temp?_eq_some_iff (fun v => by cases v <;> rfl)
    (fun _ => rfl) hdistinct

theorem declared_shaderView : s.shaderView.declared = s.declared.map Variable.shaderView := by
  simp only [declared, attributes_shaderView hdistinct, uniforms_shaderView hdistinct,
    varyings_shaderView hdistinct, temps_shaderView hdistinct, List.map_append, List.map_map]
  rfl

end Classes

/-- A view is accepted if the tree is. -/
theorem IsAccepted.shaderView {stage : Stage} (h : s.IsAccepted stage) :
    s.shaderView.IsAccepted stage := by
  have hdeclared := declared_shaderView h.distinct
  refine ⟨fun v hv => ?_, ?_, fun v hv => ?_⟩
  · rw [visits_shaderView] at hv
    obtain ⟨w, hw, rfl⟩ := List.mem_map.mp hv
    exact (w.offence?_shaderView stage).mpr (h.unbroken w hw)
  · rw [hdeclared, List.map_map]
    have hnames : s.declared.map (Variable.name ∘ Variable.shaderView) =
        s.declared.map Variable.name := List.map_congr_left fun v _ => v.name_shaderView
    rw [hnames]
    exact h.distinct
  · rw [hdeclared] at hv
    obtain ⟨w, hw, rfl⟩ := List.mem_map.mp hv
    rw [w.glslName?_ty_shaderView]
    exact h.declarable w hw

/-- The source around a tree is the source around its view. -/
theorem sourceText_shaderView (hdistinct : (s.declared.map Variable.name).Nodup) (options : Options)
    (output : String) :
    sourceText options s.shaderView.attributes s.shaderView.uniforms s.shaderView.varyings
        s.shaderView.temps (s.shaderView.text output) =
      sourceText options s.attributes s.uniforms s.varyings s.temps (s.text output) := by
  have hdeclaration : ∀ (storage : String) (ty : Ty) (name ending : String),
      declarationText storage ty.shaderView name ending =
        declarationText storage ty name ending := by
    intro storage ty name ending
    rw [declarationText, ty.glslName?_shaderView, declarationText]
  rw [attributes_shaderView hdistinct, uniforms_shaderView hdistinct,
    varyings_shaderView hdistinct, temps_shaderView hdistinct, text_shaderView]
  simp only [sourceText, List.map_map, Function.comp_def, Attribute.shaderView, Uniform.shaderView,
    Varying.shaderView, Temp.shaderView, hdeclaration]
  rfl

end Statement

namespace Glsl.Generator

/-- What has a source has it in common with its view, and the view declares the views of
the variables. -/
theorem generate_shaderView (g : Generator) (history history' : List Call) (root : Statement)
    (source : String) (h : ((g.serve history).generate root).value.1 = .ok source) :
    let held := ((g.serve history).generate root).value.2.references
    let run := ((g.serve history').generate root.shaderView).value
    run.1 = .ok source ∧
      run.2.references.attributes.toList = held.attributes.toList.map Attribute.shaderView ∧
      run.2.references.uniforms.toList = held.uniforms.toList.map Uniform.shaderView ∧
      run.2.references.varyings.toList = held.varyings.toList.map Varying.shaderView ∧
      run.2.references.temps.toList = held.temps.toList.map Temp.shaderView := by
  intro held run
  obtain ⟨haccepted, hsource⟩ := generate_eq_ok_iff.mp h
  have hdistinct := haccepted.distinct
  obtain ⟨hattributes, huniforms, hvaryings, htemps⟩ :=
    toList_references_of_isAccepted history haccepted
  obtain ⟨hattributes', huniforms', hvaryings', htemps'⟩ :=
    toList_references_of_isAccepted history' haccepted.shaderView
  refine ⟨generate_eq_ok_iff.mpr ⟨haccepted.shaderView, ?_⟩, ?_, ?_, ?_, ?_⟩
  · rw [Statement.sourceText_shaderView hdistinct]
    exact hsource
  · rw [hattributes', hattributes, Statement.attributes_shaderView hdistinct]
  · rw [huniforms', huniforms, Statement.uniforms_shaderView hdistinct]
  · rw [hvaryings', hvaryings, Statement.varyings_shaderView hdistinct]
  · rw [htemps', htemps, Statement.temps_shaderView hdistinct]

/-- Four normalized bytes in an attribute, a temporary, a varying and a constructor, with
a selection from a product, and a view that is written after a run that failed. -/
theorem generate_shaderView_bytes :
    let color : Operand := .var (.attribute ⟨"a_Color", .byte4, true⟩)
    let tint : Operand := .var (.uniform ⟨"u_Tint", .mat4⟩)
    let mixed : Operand := .var (.temp ⟨0, .byte4⟩)
    let root : Statement := .block
      [.assign mixed (.vector .byte4 [.swizzle (.binop .mul tint color) "rgb", .float .one]),
        .ifThen (.bool true)
          (.assign (.var (.varying ⟨"v_Color", .byte4⟩)) (.binop .mul color mixed))]
    let g : Generator := { stage := .vertex, options := { dialect := .es } }
    let history : List Call := [.generate (.assign tint (.vector .bool [.out]))]
    let source :=
      "precision mediump float;\nprecision mediump int;\nprecision lowp sampler2D;\n" ++
        "precision lowp samplerCube;\nattribute vec4 a_Color;\nuniform mat4 u_Tint;\n" ++
        "varying vec4 v_Color;\nvoid main() \x7bvec4 temp0;\x7btemp0 = " ++
        "vec4((u_Tint*a_Color).rgb,1.0);if (true) v_Color = (a_Color*temp0);\x7d\x7d\n"
    let run := ((g.serve history).generate root.shaderView).value
    ((g.serve []).generate root).value.1 = .ok source ∧ run.1 = .ok source ∧
      run.2.references.attributes.toList = [⟨"a_Color", .vec4, false⟩] ∧
      run.2.references.uniforms.toList = [⟨"u_Tint", .mat4⟩] ∧
      run.2.references.varyings.toList = [⟨"v_Color", .vec4⟩] ∧
      run.2.references.temps.toList = [⟨0, .vec4⟩] := by
  intro color tint mixed root g history source run
  have hsource : ((g.serve []).generate root).value.1 = .ok source := by decide +kernel
  obtain ⟨hview, hattributes, huniforms, hvaryings, htemps⟩ :=
    generate_shaderView g [] history root source hsource
  refine ⟨hsource, hview, ?_, ?_, ?_, ?_⟩
  · rw [hattributes]
    decide +kernel
  · rw [huniforms]
    decide +kernel
  · rw [hvaryings]
    decide +kernel
  · rw [htemps]
    decide +kernel

end Glsl.Generator

end ShaderTree
