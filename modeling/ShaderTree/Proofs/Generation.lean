import Mathlib.Data.List.Nodup
import ShaderTree.Glsl.Generator
import ShaderTree.Proofs.Draft

/-!
# The result of a run

A run of a generator either ends in a fault or gives a source, and both are
determined by the tree alone, whatever the generator did before.

`Statement.verdict` names the fault.  It looks at the visits of the tree in order
and takes the first offence; if there is none, it looks at the names of what must
be declared and takes the first that stands among those before it; if there is
none, it takes the first variable whose type cannot be declared.  Without a
verdict the source is the preamble, the declarations, and `main` around the text
of the tree.
-/

namespace ShaderTree

namespace Glsl

/-- The value, unless there is a complaint. -/
def settle {α : Type} (complaint : Option Fault) (value : α) : Except Fault α :=
  match complaint with
  | some fault => .error fault
  | none => .ok value

theorem mapM_settle {α β : Type} (c : α → Option Fault) (f : α → β) (l : List α) :
    (l.mapM fun a => settle (c a) (f a)) = settle (l.findSome? c) (l.map f) := by
  induction l with
  | nil => rfl
  | cons a l ih =>
      rw [List.mapM_cons, ih, List.findSome?_cons, List.map_cons]
      cases c a with
      | none => cases l.findSome? c <;> rfl
      | some fault => rfl

theorem settle_eq_error_iff {α : Type} {c : Option Fault} {a : α} {fault : Fault} :
    settle c a = .error fault ↔ c = some fault := by
  cases c <;> simp [settle]

theorem settle_eq_ok_iff {α : Type} {c : Option Fault} {a b : α} :
    settle c a = .ok b ↔ c = none ∧ a = b := by
  cases c <;> simp [settle]

/-- The first name that stands among those before it. -/
def firstRepeated? (names : List String) : Option String :=
  (names.zipIdx.find? fun p => p.1 ∈ names.take p.2).map (·.1)

/-- The complaint about a variable that cannot be declared. -/
def undeclarable? (v : Variable) : Option Fault :=
  match v.ty.glslName? with
  | some _ => none
  | none => some (.undeclarable v.ty v.name)

/-- What stands in the way of declaring the given variables together. -/
def complaint? (declared : List Variable) : Option Fault :=
  ((firstRepeated? (declared.map Variable.name)).map .nameClash).or
    (declared.findSome? undeclarable?)

/-- The text that declares one variable. -/
def declarationText (storage : String) (ty : Ty) (name ending : String) : String :=
  storage ++ ty.glslName?.getD "" ++ " " ++ name ++ ending

/-- The source around the text `body`, from the variables to declare. -/
def sourceText (options : Options) (attributes : List Attribute) (uniforms : List Uniform)
    (varyings : List Varying) (temps : List Temp) (body : String) : String :=
  options.preamble ++
    String.join (attributes.map fun a => declarationText "attribute " a.ty a.name ";\n") ++
    String.join (uniforms.map fun u => declarationText "uniform " u.ty u.name ";\n") ++
    String.join (varyings.map fun v => declarationText "varying " v.ty v.name ";\n") ++
    "void main() \x7b" ++
    String.join (temps.map fun t => declarationText "" t.ty t.name ";") ++ body ++ "\x7d\n"

/-- The loop over the names already seen finds the first repeated name. -/
theorem firstRepeat_reverse (before names : List String) :
    firstRepeat before.reverse names =
      ((names.zipIdx before.length).find? fun p => p.1 ∈ (before ++ names).take p.2).map
        (·.1) := by
  induction names generalizing before with
  | nil => rfl
  | cons name names ih =>
      have htake : (before ++ name :: names).take before.length = before := by simp
      rw [firstRepeat, List.zipIdx_cons, List.find?_cons, htake]
      by_cases hname : name ∈ before
      · simp [hname]
      · have hstep := ih (before ++ [name])
        simp only [List.reverse_append, List.reverse_cons, List.reverse_nil, List.nil_append,
          List.singleton_append, List.length_append, List.length_cons, List.length_nil,
          List.append_assoc] at hstep
        simp [hname, hstep]

theorem firstRepeat_eq_none_iff {seen names : List String} :
    firstRepeat seen names = none ↔ names.Nodup ∧ ∀ name ∈ names, name ∉ seen := by
  induction names generalizing seen with
  | nil => simp [firstRepeat]
  | cons name names ih =>
      by_cases hname : name ∈ seen
      · simp [firstRepeat, hname]
      · rw [firstRepeat, if_neg hname, ih, List.nodup_cons]
        constructor
        · rintro ⟨hnodup, hfresh⟩
          refine ⟨⟨fun hmem => hfresh name hmem List.mem_cons_self, hnodup⟩, ?_⟩
          intro other hother
          rcases List.mem_cons.mp hother with rfl | hother
          · exact hname
          · exact fun hseen => hfresh other hother (List.mem_cons_of_mem _ hseen)
        · rintro ⟨⟨hnew, hnodup⟩, hfresh⟩
          refine ⟨hnodup, fun other hother hseen => ?_⟩
          rcases List.mem_cons.mp hseen with rfl | hseen
          · exact hnew hother
          · exact hfresh other (List.mem_cons_of_mem _ hother) hseen

theorem firstRepeat_nil (names : List String) : firstRepeat [] names = firstRepeated? names :=
  firstRepeat_reverse [] names

theorem firstRepeated?_eq_none_iff {names : List String} :
    firstRepeated? names = none ↔ names.Nodup := by
  rw [← firstRepeat_nil, firstRepeat_eq_none_iff]
  simp

theorem checkNames_eq_settle (r : References) :
    checkNames r =
      settle ((firstRepeated? (r.declared.map Variable.name)).map .nameClash) () := by
  rw [checkNames, firstRepeat_nil, r.names_eq_map_declared]
  cases firstRepeated? (r.declared.map Variable.name) <;> rfl

theorem declaration_eq_settle (storage : String) (v : Variable) (ending : String) :
    declaration storage v.ty v.name ending =
      settle (undeclarable? v) (declarationText storage v.ty v.name ending) := by
  cases hname : v.ty.glslName? <;>
    simp [declaration, typeName, undeclarable?, declarationText, hname] <;> rfl

/-- The declarations of one class of variables. -/
theorem mapM_declaration {α : Type} (storage ending : String) (f : α → Variable) (l : List α) :
    (l.mapM fun a => declaration storage (f a).ty (f a).name ending) =
      settle ((l.map f).findSome? undeclarable?)
        (l.map fun a => declarationText storage (f a).ty (f a).name ending) := by
  simp only [declaration_eq_settle]
  rw [mapM_settle, List.findSome?_map]
  rfl

theorem globals_eq_settle (r : References) :
    globals r =
      settle
        ((r.attributes.toList.map Variable.attribute ++ r.uniforms.toList.map Variable.uniform ++
          r.varyings.toList.map Variable.varying).findSome? undeclarable?)
        (String.join (r.attributes.toList.map fun a =>
            declarationText "attribute " a.ty a.name ";\n") ++
          String.join (r.uniforms.toList.map fun u =>
            declarationText "uniform " u.ty u.name ";\n") ++
          String.join (r.varyings.toList.map fun v =>
            declarationText "varying " v.ty v.name ";\n")) := by
  have hattributes := mapM_declaration "attribute " ";\n" Variable.attribute r.attributes.toList
  have huniforms := mapM_declaration "uniform " ";\n" Variable.uniform r.uniforms.toList
  have hvaryings := mapM_declaration "varying " ";\n" Variable.varying r.varyings.toList
  simp only [Variable.ty, Variable.name, Variable.spelling] at hattributes huniforms hvaryings
  rw [globals, hattributes, huniforms, hvaryings, List.findSome?_append, List.findSome?_append,
    ← String.join_append, ← String.join_append]
  cases (r.attributes.toList.map Variable.attribute).findSome? undeclarable? <;>
    cases (r.uniforms.toList.map Variable.uniform).findSome? undeclarable? <;>
    cases (r.varyings.toList.map Variable.varying).findSome? undeclarable? <;> rfl

theorem locals_eq_settle (r : References) :
    locals r =
      settle ((r.temps.toList.map Variable.temp).findSome? undeclarable?)
        (String.join (r.temps.toList.map fun t => declarationText "" t.ty t.name ";")) := by
  have htemps := mapM_declaration "" ";" Variable.temp r.temps.toList
  simp only [Variable.ty, Variable.name, Variable.spelling] at htemps
  rw [locals, htemps]
  cases (r.temps.toList.map Variable.temp).findSome? undeclarable? <;> rfl

theorem assemble_eq_settle (options : Options) (r : References) (body : String) :
    assemble options r body =
      settle (complaint? r.declared)
        (sourceText options r.attributes.toList r.uniforms.toList r.varyings.toList r.temps.toList
          body) := by
  have hdeclared : r.declared.findSome? undeclarable? =
      ((r.attributes.toList.map Variable.attribute ++ r.uniforms.toList.map Variable.uniform ++
        r.varyings.toList.map Variable.varying).findSome? undeclarable?).or
        ((r.temps.toList.map Variable.temp).findSome? undeclarable?) := List.findSome?_append
  rw [assemble, checkNames_eq_settle, globals_eq_settle, locals_eq_settle, complaint?, hdeclared]
  cases (firstRepeated? (r.declared.map Variable.name)).map Fault.nameClash with
  | some fault => rfl
  | none =>
      cases (r.attributes.toList.map Variable.attribute ++ r.uniforms.toList.map Variable.uniform ++
          r.varyings.toList.map Variable.varying).findSome? undeclarable? with
      | some fault => rfl
      | none =>
          cases (r.temps.toList.map Variable.temp).findSome? undeclarable? with
          | some fault => rfl
          | none =>
              refine congrArg Except.ok ?_
              simp only [sourceText, String.append_assoc]

theorem complaint?_eq_none_iff {declared : List Variable} :
    complaint? declared = none ↔
      (declared.map Variable.name).Nodup ∧ ∀ v ∈ declared, v.ty.glslName?.isSome := by
  rw [complaint?, Option.or_eq_none_iff, Option.map_eq_none_iff, firstRepeated?_eq_none_iff,
    List.findSome?_eq_none_iff]
  refine and_congr_right fun _ => forall₂_congr fun v _ => ?_
  cases hname : v.ty.glslName? <;> simp [undeclarable?, hname]

end Glsl

open Glsl

namespace Statement

/-- The fault for which a tree has no source in a stage. -/
def verdict (stage : Stage) (s : Statement) : Option Fault :=
  (s.visits.findSome? (Visit.offence? stage)).or (complaint? s.declared)

/-- No node of the tree offends by itself, so writing it does not stop. -/
def IsUnbroken (stage : Stage) (s : Statement) : Prop :=
  ∀ v ∈ s.visits, v.offence? stage = none

/-- A tree against which nothing can be said in a stage. -/
structure IsAccepted (stage : Stage) (s : Statement) : Prop where
  unbroken : s.IsUnbroken stage
  distinct : (s.declared.map Variable.name).Nodup
  declarable : ∀ v ∈ s.declared, v.ty.glslName?.isSome

theorem verdict_eq_none_iff {stage : Stage} {s : Statement} :
    s.verdict stage = none ↔ s.IsAccepted stage := by
  rw [verdict, Option.or_eq_none_iff, List.findSome?_eq_none_iff, complaint?_eq_none_iff]
  constructor
  · rintro ⟨hunbroken, hdistinct, hdeclarable⟩
    exact ⟨hunbroken, hdistinct, hdeclarable⟩
  · rintro ⟨hunbroken, hdistinct, hdeclarable⟩
    exact ⟨hunbroken, hdistinct, hdeclarable⟩

end Statement

namespace Glsl

namespace Draft

variable {stage : Stage} {d : Draft} {vs : List Visit} {t : String}

theorem Renders.mentions_of_no_fault (h : Renders stage d vs t) (hd : d.fault = none) :
    d.mentions = vs.filterMap Visit.mention? := by
  rw [h.mentions, List.takeWhile_eq_self_iff.mpr (h.all_isNone hd)]

end Draft

namespace Generator

/-- A call on a generator. -/
inductive Call where
  | reset
  | generate (root : Statement)

/-- The generator after a number of calls. -/
def serve (g : Generator) : List Call → Generator
  | [] => g
  | .reset :: calls => g.reset.serve calls
  | .generate root :: calls => (g.generate root).value.2.serve calls

@[simp] theorem stage_serve (g : Generator) (calls : List Call) :
    (g.serve calls).stage = g.stage := by
  induction calls generalizing g with
  | nil => rfl
  | cons call calls ih =>
      cases call with
      | reset => exact ih g.reset
      | generate root => exact ih (g.generate root).value.2

@[simp] theorem options_serve (g : Generator) (calls : List Call) :
    (g.serve calls).options = g.options := by
  induction calls generalizing g with
  | nil => rfl
  | cons call calls ih =>
      cases call with
      | reset => exact ih g.reset
      | generate root => exact ih (g.generate root).value.2

/-- A run as a function of the stage, the options and the tree. -/
theorem generate_result (g : Generator) (root : Statement) :
    (g.generate root).value.1 =
      settle (root.verdict g.stage)
        (sourceText g.options root.attributes root.uniforms root.varyings root.temps
          (root.text g.stage.outputName)) := by
  have hrenders := root.draft_renders g.stage
  have hresult : (g.generate root).value.1 = (root.draft g.stage).finish g.options
      (References.empty.insertMany (root.draft g.stage).mentions) := by
    rw [generate_value, references_note_reset]
  rw [hresult, Statement.verdict, ← hrenders.fault, Draft.finish]
  cases hfault : (root.draft g.stage).fault with
  | some fault => rfl
  | none =>
      obtain ⟨hattributes, huniforms, hvaryings, htemps⟩ :=
        References.toList_insertMany_mentions root
      have hmentions : (root.draft g.stage).mentions = root.mentions :=
        hrenders.mentions_of_no_fault hfault
      simp only [Option.none_or]
      rw [assemble_eq_settle, hmentions, hrenders.text hfault,
        References.declared_insertMany_mentions, hattributes, huniforms, hvaryings, htemps]

/-- What a generator holds after a run are the mentions made before the first
offence. -/
theorem generate_references (g : Generator) (root : Statement) :
    (g.generate root).value.2.references =
      References.empty.insertMany
        ((root.visits.takeWhile fun v => (v.offence? g.stage).isNone).filterMap
          Visit.mention?) := by
  have hrenders := root.draft_renders g.stage
  rw [generate_value, references_note_reset, hrenders.mentions]

/-- What a run through the whole tree holds are all its mentions. -/
theorem references_of_isUnbroken {g : Generator} {root : Statement}
    (h : root.IsUnbroken g.stage) :
    (g.generate root).value.2.references = References.empty.insertMany root.mentions := by
  have hall : ∀ v ∈ root.visits, (v.offence? g.stage).isNone := by
    intro v hv
    simp [h v hv]
  rw [generate_references, List.takeWhile_eq_self_iff.mpr hall]
  rfl

/-- After a run on an accepted tree a generator holds the variables of the tree. -/
theorem toList_references_of_isAccepted {g : Generator} (history : List Call) {root : Statement}
    (h : root.IsAccepted g.stage) :
    let held := ((g.serve history).generate root).value.2.references
    held.attributes.toList = root.attributes ∧ held.uniforms.toList = root.uniforms ∧
      held.varyings.toList = root.varyings ∧ held.temps.toList = root.temps := by
  intro held
  have hunbroken : root.IsUnbroken (g.serve history).stage := by
    rw [stage_serve]
    exact h.unbroken
  have hheld : held = References.empty.insertMany root.mentions :=
    references_of_isUnbroken hunbroken
  rw [hheld]
  exact References.toList_insertMany_mentions root

/-- The trees that have a source are those that are accepted. -/
theorem generate_eq_ok_iff {g : Generator} {history : List Call} {root : Statement}
    {source : String} :
    ((g.serve history).generate root).value.1 = .ok source ↔
      root.IsAccepted g.stage ∧
        sourceText g.options root.attributes root.uniforms root.varyings root.temps
          (root.text g.stage.outputName) = source := by
  rw [generate_result, stage_serve, options_serve, settle_eq_ok_iff,
    Statement.verdict_eq_none_iff]

/-- Whatever a generator served before, a run fails with the verdict on the tree
and succeeds if there is none. -/
theorem generate_follows_verdict (g : Generator) (history : List Call) (root : Statement) :
    (∀ fault, ((g.serve history).generate root).value.1 = .error fault ↔
        root.verdict g.stage = some fault) ∧
      ((∃ source, ((g.serve history).generate root).value.1 = .ok source) ↔
        root.verdict g.stage = none) := by
  rw [generate_result, stage_serve]
  refine ⟨fun fault => settle_eq_error_iff, ?_⟩
  constructor
  · rintro ⟨source, hsource⟩
    exact (settle_eq_ok_iff.mp hsource).1
  · intro hverdict
    exact ⟨_, settle_eq_ok_iff.mpr ⟨hverdict, rfl⟩⟩

end Generator

/-- A source of a tree, together with what its generator holds. -/
structure IsSourceOf (stage : Stage) (options : Options) (root : Statement) (source : String)
    (held : References) : Prop where
  /-- The text from the preamble to the end of `main`. -/
  layout : source = sourceText options root.attributes root.uniforms root.varyings root.temps
    (root.text stage.outputName)
  /-- Every declaration has a word for its type. -/
  declarable : ∀ v ∈ root.declared, v.ty.glslName?.isSome
  /-- What is mentioned is declared once, and nothing else is declared. -/
  once : ∀ v, root.declared.count v = if v ∈ root.mentions ∧ v ≠ .output then 1 else 0
  distinct : (root.declared.map Variable.name).Nodup
  attributes : held.attributes.toList = root.attributes
  uniforms : held.uniforms.toList = root.uniforms
  varyings : held.varyings.toList = root.varyings
  temps : held.temps.toList = root.temps

theorem count_declared {root : Statement} (hnodup : root.declared.Nodup) (v : Variable) :
    root.declared.count v = if v ∈ root.mentions ∧ v ≠ .output then 1 else 0 := by
  split
  · next hmem => exact List.count_eq_one_of_mem hnodup (Statement.mem_declared.mpr hmem)
  · next hmem => exact List.count_eq_zero.mpr fun h => hmem (Statement.mem_declared.mp h)

namespace Generator

/-- A run that succeeds gives the source of the tree. -/
theorem generate_isSourceOf (g : Generator) (history : List Call) (root : Statement)
    (source : String) (h : ((g.serve history).generate root).value.1 = .ok source) :
    IsSourceOf g.stage g.options root source
      ((g.serve history).generate root).value.2.references := by
  obtain ⟨haccepted, hsource⟩ := generate_eq_ok_iff.mp h
  obtain ⟨hattributes, huniforms, hvaryings, htemps⟩ := References.toList_insertMany_mentions root
  have hunbroken : root.IsUnbroken (g.serve history).stage := by
    rw [stage_serve]
    exact haccepted.unbroken
  rw [references_of_isUnbroken hunbroken]
  exact ⟨hsource.symm, haccepted.declarable,
    count_declared (List.Nodup.of_map _ haccepted.distinct), haccepted.distinct, hattributes,
    huniforms, hvaryings, htemps⟩

/-- A tree that mentions all four classes, some of them twice, given to a
generator whose last run failed. -/
theorem generate_isSourceOf_tinted :
    let tint : Operand := .var (.uniform ⟨"u_Tint", .mat4⟩)
    let color : Operand := .var (.temp ⟨0, .vec4⟩)
    let root : Statement := .block
      [.assign color (.binop .mul tint (.var (.attribute ⟨"a_Color", .byte4, true⟩))),
        .ifThen (.bool true) (.block [.assign color (.binop .mul tint color)]),
        .assign (.var (.varying ⟨"v_Color", .vec4⟩)) color]
    let g : Generator := { stage := .vertex, options := { dialect := .es } }
    let history : List Call := [.generate (.assign tint (.vector .bool [.out]))]
    let source :=
      "precision mediump float;\nprecision mediump int;\nprecision lowp sampler2D;\n" ++
        "precision lowp samplerCube;\nattribute vec4 a_Color;\nuniform mat4 u_Tint;\n" ++
        "varying vec4 v_Color;\nvoid main() \x7bvec4 temp0;\x7btemp0 = (u_Tint*a_Color);" ++
        "if (true) \x7btemp0 = (u_Tint*temp0);\x7dv_Color = temp0;\x7d\x7d\n"
    ((g.serve history).generate root).value.1 = .ok source ∧
      IsSourceOf g.stage g.options root source
        ((g.serve history).generate root).value.2.references := by
  intro tint color root g history source
  have hsource : ((g.serve history).generate root).value.1 = .ok source := by decide +kernel
  exact ⟨hsource, generate_isSourceOf g history root source hsource⟩

end Generator

end Glsl

end ShaderTree
